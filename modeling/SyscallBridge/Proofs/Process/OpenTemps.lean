import Mathlib.Logic.Function.Basic
import SyscallBridge.Proofs.File.OpenTemps
import SyscallBridge.Proofs.Process.Handles

/-!
# Open temp files under system calls

A machine of its own keeps the open temp files: which descriptors each is open on, where its cursor
stands, and what was written to every path. It is driven by the calls, their answers and the end of
the links, and looks at nothing else of the process. The process answers every call on a temp file
as the machine does, whatever else goes on and wherever `TMPDIR` is set to.
-/

namespace SyscallBridge

/-- What a turn is to the open temp files. -/
inductive TempAct where
  | open_ (fd : Nat) (path : String) (flags : OpenFlags)
  | copy (fd target : Nat)
  | close (fd : Nat)
  | call (fd : Nat) (c : FileCall)
  deriving DecidableEq, Repr

/-- All open temp files in the order of their opening, the one of each descriptor, and all that
was done to the bytes at any path. -/
structure OpenTemps where
  descriptors : Nat → Option Nat := fun _ => none
  files : List OpenTemp := []
  log : List TempEvent := []

namespace OpenTemps

/-- The writes to a path since it was last truncated. -/
def writes (m : OpenTemps) (path : String) : List TempWrite := writesTo path m.log

def file? (m : OpenTemps) (fd : Nat) : Option OpenTemp :=
  (m.descriptors fd).bind fun n => m.files[n]?

/-- A new open file starts at place 0; descriptors that were copied have one file between them, and
so one cursor. -/
def step (m : OpenTemps) : TempAct → OpenTemps
  | .open_ fd path flags =>
    { descriptors := Function.update m.descriptors fd (some m.files.length)
      files := m.files ++ [{ path, flags }]
      log := m.log ++ if flags.truncate ∧ flags.write then [.truncated path] else [] }
  | .copy fd target =>
    { m with descriptors := Function.update m.descriptors target (m.descriptors fd) }
  | .close fd => { m with descriptors := Function.update m.descriptors fd none }
  | .call fd c =>
    match m.descriptors fd, m.file? fd with
    | some n, some x =>
      let outcome := x.call (m.writes x.path) c
      { m with
        files := m.files.set n outcome.file
        log := m.log ++ (outcome.written.map (.wrote x.path)).toList }
    | _, _ => m

end OpenTemps

namespace Process

/-- What a turn is to the open temp files, told from the call and its answer. A dial that fails
closes its descriptor, whatever that is by then. -/
def tempAct? (p : Process) : ProcessEvent → Option TempAct
  | .call (.open_ path flags) =>
    match p.tree.links.resolve path, (p.startOpen path flags).progress with
    | .ok target, .done (.ok (.number fd)) =>
      if Path.isUnder target p.tmpDir then some (.open_ fd target flags) else none
    | _, _ => none
  | .call (.close fd) => if (p.startClose fd).progress.succeeded then some (.close fd) else none
  | .call (.dup fd) =>
    match (p.start (.dup fd)).progress with
    | .done (.ok (.number copy)) => some (.copy fd copy)
    | _ => none
  | .call (.dup2 fd target) =>
    if (p.startDup2 fd target).progress.succeeded then some (.copy fd target) else none
  | .call (.onFile fd c) => some (.call fd c)
  | .answer (.onSocket file q (.dialed fd)) a =>
    match (p.resume (.onSocket file q (.dialed fd)) a).progress with
    | .done (.error _) => some (.close fd)
    | _ => none
  | _ => none

theorem tempAct?_open {p : Process} {path target : String} {flags : OpenFlags} {fd : Nat}
    (hr : p.tree.links.resolve path = .ok target) (hu : Path.isUnder target p.tmpDir = true)
    (hdone : (p.startOpen path flags).progress = .done (.ok (.number fd))) :
    p.tempAct? (.call (.open_ path flags)) = some (.open_ fd target flags) := by
  simp only [tempAct?, hr, hdone, if_pos hu]

/-- The open temp files after some events, from those before them. -/
def openTemps (p : Process) (m : OpenTemps) : List ProcessEvent → OpenTemps
  | [] => m
  | e :: events => (p.next e).openTemps ((p.tempAct? e).elim m m.step) events

end Process

/-! ### Processes and machines -/

namespace OpenTemps

theorem file?_open (m : OpenTemps) (fd : Nat) (path : String) (flags : OpenFlags) :
    (m.step (.open_ fd path flags)).file? fd = some { path, flags } := by
  simp only [file?, step, Function.update_self, Option.bind_some]
  rw [List.getElem?_append_right (Nat.le_refl _), Nat.sub_self]
  rfl

variable {m : OpenTemps}

theorem step_call {fd n : Nat} {x : OpenTemp} (hn : m.descriptors fd = some n)
    (hx : m.files[n]? = some x) (c : FileCall) :
    m.step (.call fd c) = { m with
      files := m.files.set n (x.call (m.writes x.path) c).file
      log := m.log ++ ((x.call (m.writes x.path) c).written.map (.wrote x.path)).toList } := by
  have hfile : m.file? fd = some x := by rw [file?, hn, Option.bind_some, hx]
  simp only [step, hn, hfile]

/-- The descriptors with an open file of the machine are those of temp files, and each is on the
handle that its open file says. Open files are told apart as the files are that they stand for. -/
structure Names (number : Nat → Nat) (m : OpenTemps) (p : Process) : Prop where
  file : ∀ fd n, m.descriptors fd = some n → ∃ x content, m.files[n]? = some x ∧
    p.tree.temps.find? x.path = some content ∧
    p.tempAt? fd = some (number n, x.handle content)
  empty : ∀ fd, m.descriptors fd = none → p.tempAt? fd = none
  apart : ∀ fd fd' n n', m.descriptors fd = some n → m.descriptors fd' = some n' →
    number n = number n' → n = n'

namespace Names

variable {number : Nat → Nat} {m : OpenTemps} {p p' : Process} {fd : Nat}

theorem kept (h : Names number m p) (hp : Process.HandlesKept p p') : Names number m p' where
  file d n hd := by
    obtain ⟨x, content, hx, hcontent, ht⟩ := h.file d n hd
    exact ⟨x, content, hx, hp.temps ▸ hcontent, (hp.tempAt d).trans ht⟩
  empty d hd := (hp.tempAt d).trans (h.empty d hd)
  apart := h.apart

theorem close (h : Names number m p) (htemps : p'.tree.temps = p.tree.temps)
    (ht : ∀ d, p'.tempAt? d = if d = fd then none else p.tempAt? d) :
    Names number (m.step (.close fd)) p' where
  file d n hd := by
    simp only [step, Function.update_apply] at hd
    rw [htemps, ht]
    split at hd
    · cases hd
    · next hne =>
      rw [if_neg hne]
      exact h.file d n hd
  empty d hd := by
    simp only [step, Function.update_apply] at hd
    rw [ht]
    split at hd
    · next heq => exact if_pos heq
    · next hne => exact (if_neg hne).trans (h.empty d hd)
  apart d d' n n' hd hd' := by
    simp only [step, Function.update_apply] at hd hd'
    split at hd
    · cases hd
    · split at hd'
      · cases hd'
      · exact h.apart d d' n n' hd hd'

/-- The entries of a machine after a copy are among those before. -/
theorem descriptors_copy {target d : Nat} :
    (m.step (.copy fd target)).descriptors d = m.descriptors (if d = target then fd else d) := by
  simp only [step, Function.update_apply]
  split <;> rfl

theorem copy (h : Names number m p) {target : Nat} (htemps : p'.tree.temps = p.tree.temps)
    (ht : ∀ d, p'.tempAt? d = p.tempAt? (if d = target then fd else d)) :
    Names number (m.step (.copy fd target)) p' where
  file d n hd := by
    rw [descriptors_copy] at hd
    rw [htemps, ht]
    exact h.file _ n hd
  empty d hd := by
    rw [descriptors_copy] at hd
    exact (ht d).trans (h.empty _ hd)
  apart d d' n n' hd hd' := by
    rw [descriptors_copy] at hd hd'
    exact h.apart _ _ n n' hd hd'

theorem lt_length (h : Names number m p) {n : Nat} (hd : m.descriptors fd = some n) :
    n < m.files.length := by
  obtain ⟨x, -, hx, -⟩ := h.file fd n hd
  exact (List.getElem?_eq_some_iff.1 hx).1

/-- A new open file has a number of its own. -/
theorem open_ (h : Names number m p) {path : String} {flags : OpenFlags} {id content : Nat}
    (htemps : ∀ other c, p.tree.temps.find? other = some c → p'.tree.temps.find? other = some c)
    (hcontent : p'.tree.temps.find? path = some content)
    (hfresh : ∀ d found, p.tempAt? d = some found → found.1 ≠ id)
    (ht : ∀ d, p'.tempAt? d =
      if d = fd then some (id, .open_ content flags) else p.tempAt? d) :
    Names (Function.update number m.files.length id) (m.step (.open_ fd path flags)) p' := by
  have hold : ∀ d n, m.descriptors d = some n →
      Function.update number m.files.length id n = number n ∧ number n ≠ id := by
    intro d n hd
    obtain ⟨x, c, -, -, hat⟩ := h.file d n hd
    refine ⟨?_, hfresh d _ hat⟩
    rw [Function.update_apply, if_neg (Nat.ne_of_lt (h.lt_length hd))]
  have hnew : Function.update number m.files.length id m.files.length = id := by
    rw [Function.update_apply, if_pos rfl]
  constructor
  · intro d n hd
    simp only [step, Function.update_apply m.descriptors] at hd ⊢
    rw [ht]
    split at hd
    · next heq =>
      cases hd
      refine ⟨{ path, flags }, content, ?_, hcontent, ?_⟩
      · rw [List.getElem?_append_right (Nat.le_refl _), Nat.sub_self]
        rfl
      · rw [if_pos heq, hnew]
        rfl
    · next hne =>
      obtain ⟨x, c, hx, hc, hat⟩ := h.file d n hd
      refine ⟨x, c, ?_, htemps _ c hc, ?_⟩
      · rw [List.getElem?_append_left (h.lt_length hd), hx]
      · rw [if_neg hne, (hold d n hd).1, hat]
  · intro d hd
    simp only [step, Function.update_apply m.descriptors] at hd
    rw [ht]
    split at hd
    · cases hd
    · next hne => exact (if_neg hne).trans (h.empty d hd)
  · intro d d' n n' hd hd' hsame
    simp only [step, Function.update_apply m.descriptors] at hd hd'
    split at hd <;> split at hd'
    · cases hd
      cases hd'
      rfl
    · cases hd
      rw [hnew, (hold d' n' hd').1] at hsame
      exact absurd hsame.symm (hold d' n' hd').2
    · cases hd'
      rw [hnew, (hold d n hd).1] at hsame
      exact absurd hsame (hold d n hd).2
    · rw [(hold d n hd).1, (hold d' n' hd').1] at hsame
      exact h.apart d d' n n' hd hd' hsame

/-- A call moves its own open file, at all descriptors of it. -/
theorem call (h : Names number m p) {c : FileCall} {n content : Nat} {x : OpenTemp}
    (hn : m.descriptors fd = some n) (hx : m.files[n]? = some x)
    (hcontent : p.tree.temps.find? x.path = some content) (htemps : p'.tree.temps = p.tree.temps)
    (ht : ∀ d, p'.tempAt? d = (p.tempAt? d).map fun found =>
      if found.1 = number n then
        (found.1, (x.call (m.writes x.path) c).file.handle content)
      else found) :
    Names number (m.step (.call fd c)) p' := by
  rw [step_call hn hx]
  refine ⟨fun d n' hd => ?_, fun d hd => ?_, h.apart⟩
  · obtain ⟨x', content', hx', hcontent', hat⟩ := h.file d n' hd
    rw [htemps, ht, hat, Option.map_some]
    by_cases hsame : n' = n
    · subst hsame
      refine ⟨_, content, List.getElem?_set_self (h.lt_length hn), ?_, ?_⟩
      · rw [OpenTemp.path_call, hcontent]
      · rw [if_pos rfl]
    · have hne : number n' ≠ number n := fun heq => hsame (h.apart d fd n' n hd hn heq)
      refine ⟨x', content', ?_, hcontent', ?_⟩
      · rw [List.getElem?_set_ne fun heq => hsame heq.symm, hx']
      · rw [if_neg hne]
  · rw [ht, h.empty d hd, Option.map_none]

end Names

/-- A process and a machine that look the same from outside. -/
structure Follows (number : Nat → Nat) (m : OpenTemps) (p : Process) : Prop extends
    Names number m p where
  registered : Process.Registered p
  indexed : p.tree.Indexed p.store
  shown : ∀ path, Shown (m.writes path) (p.tempBytes path)

namespace Follows

variable {number number' : Nat → Nat} {m m' : OpenTemps} {p : Process}

/-- The bytes go with the log. -/
theorem of_names (h : Follows number m p) (e : ProcessEvent)
    (hlog : m'.log = m.log ++ (p.tempEvent? e).toList) (hnames : Names number' m' (p.next e)) :
    Follows number' m' (p.next e) where
  toNames := hnames
  registered := h.registered.next e
  indexed := (Process.follow_next h.indexed e).indexed
  shown path := by
    rw [writes, writesTo, hlog, List.foldl_append, (Process.follow_next h.indexed e).bytes]
    cases p.tempEvent? e with
    | none => exact h.shown path
    | some ev => exact ev.shown_after (h.shown path)

theorem kept (h : Follows number m p) {e : ProcessEvent} (hevent : p.tempEvent? e = none)
    (hkept : Process.HandlesKept p (p.next e)) : Follows number m (p.next e) :=
  h.of_names e (by rw [hevent, Option.toList_none, List.append_nil]) (h.toNames.kept hkept)

theorem closes (h : Follows number m p) {e : ProcessEvent} {fd : Nat}
    (hevent : p.tempEvent? e = none) (htemps : (p.next e).tree.temps = p.tree.temps)
    (ht : ∀ d, (p.next e).tempAt? d = if d = fd then none else p.tempAt? d) :
    Follows number (m.step (.close fd)) (p.next e) :=
  h.of_names e (by rw [hevent, Option.toList_none, List.append_nil, step])
    (h.toNames.close htemps ht)

theorem copies (h : Follows number m p) {e : ProcessEvent} {fd target : Nat}
    (hevent : p.tempEvent? e = none) (htemps : (p.next e).tree.temps = p.tree.temps)
    (ht : ∀ d, (p.next e).tempAt? d = if d = target then p.tempAt? fd else p.tempAt? d) :
    Follows number (m.step (.copy fd target)) (p.next e) := by
  refine h.of_names e ?_ (h.toNames.copy htemps fun d => ?_)
  · rw [hevent, Option.toList_none, List.append_nil, step]
  · rw [ht]
    split <;> rfl

/-! ### One turn -/

/-- Another turn of the process, and what it is to the machine. -/
def Keeps (m : OpenTemps) (p : Process) (e : ProcessEvent) : Prop :=
  ∃ number', Follows number' ((p.tempAct? e).elim m m.step) (p.next e)

theorem keeps_dialed (h : Follows number m p) {file fd : Nat} {q : SocketPending}
    (a : Except HostFailure q.request.Answer) :
    Keeps m p (.answer (.onSocket file q (.dialed fd)) a) := by
  have hkept := Process.handlesKept_resumeSocket p file q a
  have hp : Process.Registered (p.ofStore (p.store.resumeSocket file q a).state) :=
    h.registered.ofStore (FileStore.touches_resumeSocket q a)
  have hturn : p.resume (.onSocket file q (.dialed fd)) a =
      p.socketTurn file (.dialed fd) (p.store.resumeSocket file q a) := rfl
  have hnext : p.next (.answer (.onSocket file q (.dialed fd)) a) =
      (p.socketTurn file (.dialed fd) (p.store.resumeSocket file q a)).state := rfl
  refine ⟨number, ?_⟩
  simp only [Process.tempAct?, hturn, Process.progress_dialed]
  -- unless it fails, it leaves all descriptors as they are
  have hquiet : (∀ e, (p.store.resumeSocket file q a).progress ≠ .done (.error e)) →
      Process.HandlesKept p (p.next (.answer (.onSocket file q (.dialed fd)) a)) := by
    intro hdone
    rw [hnext]
    exact hkept.socketTurn hp fun d e _ he => absurd he (hdone e)
  cases hprogress : (p.store.resumeSocket file q a).progress with
  | pending q' => exact h.kept rfl (hquiet fun e he => nomatch hprogress.symm.trans he)
  | done result =>
    cases result with
    | ok r => exact h.kept rfl (hquiet fun e he => nomatch hprogress.symm.trans he)
    | error e =>
      have htemps := (Process.TempsKept.parts
        (Process.parts_resume p (.onSocket file q (.dialed fd)) a)).temps
      refine h.closes rfl htemps fun d => ?_
      rw [hnext]
      simp only [Process.socketTurn, hprogress]
      rw [Process.tempAt?_finish_dialed hp, hkept.tempAt]

theorem keeps_answer (h : Follows number m p) (q : ProcessPending)
    (a : Except HostFailure q.request.Answer) : Keeps m p (.answer q a) := by
  cases q with
  | resolving network name port dials =>
    refine ⟨number, h.kept rfl ?_⟩
    cases a with
    | error f => exact .refl p
    | ok found =>
      change Process.HandlesKept p (p.resume _ (.ok found)).state
      simp only [Process.resume]
      split
      · exact .refl p
      · exact .located h.registered network dials _
  | onSocket file q next =>
    cases next with
    | dialed fd => exact h.keeps_dialed a
    | nothing | allocate =>
      exact ⟨number, h.kept rfl ((Process.handlesKept_resumeSocket p file q a).socketTurn
        (h.registered.ofStore (FileStore.touches_resumeSocket q a)) fun d e hd => by cases hd)⟩

theorem keeps_close (h : Follows number m p) (fd : Nat) : Keeps m p (.call (.close fd)) := by
  have htemps : (p.next (.call (.close fd))).tree.temps = p.tree.temps :=
    (Process.TempsKept.parts (Process.parts_startClose p fd)).temps
  have hnext : p.next (.call (.close fd)) = (p.startClose fd).state := rfl
  refine ⟨number, ?_⟩
  simp only [Process.tempAct?]
  cases hr : p.table.release fd with
  | error e =>
    have hfail : p.startClose fd = .fail p e := by
      simp only [Process.startClose, Process.release, hr]
      rfl
    rw [hfail]
    refine h.kept rfl ?_
    rw [hnext, hfail]
    exact .refl p
  | ok released =>
    obtain ⟨shut, table⟩ := released
    have hok : p.startClose fd = ⟨(Process.closeFile { p with table } shut).1,
        (Process.closeFile { p with table } shut).2, .done (.ok .done)⟩ := by
      simp only [Process.startClose, Process.release, hr]
      rfl
    rw [hok]
    refine h.closes rfl htemps fun d => ?_
    rw [hnext, hok]
    exact Process.tempAt?_release h.registered hr d

theorem keeps_dup (h : Follows number m p) (fd : Nat) : Keeps m p (.call (.dup fd)) := by
  refine ⟨number, ?_⟩
  have hnext : p.next (.call (.dup fd)) = (p.start (.dup fd)).state := rfl
  simp only [Process.tempAct?]
  cases hr : p.table.dup fd with
  | error e =>
    have hfail : p.start (.dup fd) = .fail p e := by simp only [Process.start, hr]
    rw [hfail]
    refine h.kept rfl ?_
    rw [hnext, hfail]
    exact .refl p
  | ok made =>
    obtain ⟨copy, table⟩ := made
    have hok : p.start (.dup fd) = .ok { p with table } (.number copy) := by
      simp only [Process.start, hr]
    rw [hok]
    refine h.copies rfl ?_ fun d => ?_
    · rw [hnext, hok]
      rfl
    · rw [hnext, hok]
      exact Process.tempAt?_dup h.registered hr d

theorem keeps_dup2 (h : Follows number m p) (fd target : Nat) :
    Keeps m p (.call (.dup2 fd target)) := by
  refine ⟨number, ?_⟩
  have hnext : p.next (.call (.dup2 fd target)) = (p.startDup2 fd target).state := rfl
  simp only [Process.tempAct?]
  cases hr : p.table.dup2 fd target with
  | error e =>
    have hfail : p.startDup2 fd target = .fail p e := by simp only [Process.startDup2, hr]
    rw [hfail]
    refine h.kept rfl ?_
    rw [hnext, hfail]
    exact .refl p
  | ok made =>
    obtain ⟨shut, table⟩ := made
    have hok : p.startDup2 fd target = ⟨(Process.closeFile { p with table } shut).1,
        (Process.closeFile { p with table } shut).2, .done (.ok (.number target))⟩ := by
      simp only [Process.startDup2, hr]
    rw [hok]
    refine h.copies rfl ?_ fun d => ?_
    · exact (Process.TempsKept.parts (Process.parts_startDup2 p fd target)).temps
    · rw [hnext, hok]
      exact Process.tempAt?_dup2 h.registered hr d

/-- The bytes of the content at a path, where a handle is on it. -/
theorem shown_content (h : Follows number m p) {path : String} {content : Nat}
    (hcontent : p.tree.temps.find? path = some content) :
    Shown (m.writes path) (p.store.bytes content) := by
  have hshown := h.shown path
  rwa [Process.tempBytes, FileSystem.tempBytes, hcontent] at hshown

/-- A call on a descriptor comes to what the machine says. -/
theorem serves (h : Follows number m p) {fd n : Nat} {x : OpenTemp} {content : Nat}
    (hcontent : p.tree.temps.find? x.path = some content)
    (hat : p.tempAt? fd = some (n, x.handle content)) (c : FileCall) :
    FileStore.Serves n content (p.store.start n c)
      ((x.handle content).written? (p.store.bytes content) c) (x.call (m.writes x.path) c) := by
  obtain ⟨-, hfile⟩ := Process.tempAt?_eq_some_iff.1 hat
  have hstart : p.store.start n c = p.store.startTemp n (x.handle content) c := by
    rw [FileStore.start, hfile]
  rw [hstart]
  exact FileStore.serves_startTemp (h.shown_content hcontent) hfile c

theorem fileEvent?_eq (h : Follows number m p) {fd n : Nat} {x : OpenTemp} {content : Nat}
    (hcontent : p.tree.temps.find? x.path = some content)
    (hat : p.tempAt? fd = some (n, x.handle content)) (c : FileCall) :
    p.fileEvent? fd c = (x.call (m.writes x.path) c).written.map (.wrote x.path) := by
  rw [← (h.serves hcontent hat c).written]
  exact Process.fileEvent?_of_at h.indexed hat hcontent c

theorem keeps_onFile (h : Follows number m p) (fd : Nat) (c : FileCall) :
    Keeps m p (.call (.onFile fd c)) := by
  refine ⟨number, ?_⟩
  change Follows number (m.step (.call fd c)) (p.next (.call (.onFile fd c)))
  cases hn : m.descriptors fd with
  | none =>
    have hnone := h.empty fd hn
    have hstay : m.step (.call fd c) = m := by simp only [step, hn]
    rw [hstay]
    exact h.kept (Process.fileEvent?_of_none hnone c)
      (Process.handlesKept_startOnFile h.registered hnone c)
  | some n =>
    obtain ⟨x, content, hx, hcontent, hat⟩ := h.file fd n hn
    have hserves := h.serves hcontent hat c
    obtain ⟨hlookup, -⟩ := Process.tempAt?_eq_some_iff.1 hat
    have hnext : p.next (.call (.onFile fd c)) = p.ofStore (p.store.start (number n) c).state := by
      change (p.startOnFile fd c).state = _
      rw [Process.startOnFile_of_lookup hlookup]
      rfl
    have hevent : p.tempEvent? (.call (.onFile fd c)) =
        (x.call (m.writes x.path) c).written.map (.wrote x.path) :=
      h.fileEvent?_eq hcontent hat c
    refine h.of_names _ ?_ (h.toNames.call hn hx hcontent (hnext ▸ rfl) fun d => ?_)
    · rw [step_call hn hx, hevent]
    · rw [hnext, Process.tempAt?_ofStore hlookup (FileStore.touches_start c)]
      split
      · next hd =>
        have hsame : p.tempAt? d = p.tempAt? fd := by
          rw [Process.tempAt?, hd, ← hlookup, Process.tempAt?]
        rw [Process.tempOf_of_temp hserves.handle, hsame, hat, Option.map_some, if_pos rfl]
      · next hd =>
        cases hd' : p.tempAt? d with
        | none => rfl
        | some found =>
          have hother : found.1 ≠ number n := fun heq =>
            hd (heq ▸ (Process.tempAt?_eq_some_iff.1 hd').1)
          rw [Option.map_some, if_neg hother]

/-- An open that comes to no temp file. -/
theorem keeps_open_other (h : Follows number m p) {path target : String} (flags : OpenFlags)
    (hr : p.tree.links.resolve path = .ok target)
    (hu : ¬ (Path.isUnder target p.tmpDir = true ∧ target ∉ p.tree.directories)) :
    Keeps m p (.call (.open_ path flags)) := by
  have hfails := (Process.startOpen_other flags hr hu).2
  have hact : p.tempAct? (.call (.open_ path flags)) = none := by
    simp only [Process.tempAct?, hr]
    split
    · next target' fd heq hdone =>
      cases heq
      refine if_neg fun hunder => ?_
      have hfailed := hfails hunder
      rw [hdone] at hfailed
      cases hfailed
    · rfl
  have hevent : p.tempEvent? (.call (.open_ path flags)) = none := by
    change p.openEvent? path flags = none
    simp only [Process.openEvent?, hr]
    refine if_neg ?_
    rintro ⟨hdone, hunder, -⟩
    rw [hfails hunder] at hdone
    cases hdone
  rw [Keeps, hact]
  refine ⟨number, h.kept hevent (Process.HandlesKept.startOpen h.registered ?_)⟩
  intro f t store hopen
  exact (Process.open_other hr hu hopen).2

theorem keeps_open (h : Follows number m p) (path : String) (flags : OpenFlags) :
    Keeps m p (.call (.open_ path flags)) := by
  cases hr : p.tree.links.resolve path with
  | error e =>
    have hact : p.tempAct? (.call (.open_ path flags)) = none := by simp only [Process.tempAct?, hr]
    have hevent : p.tempEvent? (.call (.open_ path flags)) = none := by
      change p.openEvent? path flags = none
      simp only [Process.openEvent?, hr]
    have hfail : p.startOpen path flags = .fail p e := by
      simp only [Process.startOpen, FileSystem.open_, hr]
      rfl
    rw [Keeps, hact]
    refine ⟨number, h.kept hevent ?_⟩
    change Process.HandlesKept p (p.startOpen path flags).state
    rw [hfail]
    exact .refl p
  | ok target =>
    by_cases hu : Path.isUnder target p.tmpDir = true ∧ target ∉ p.tree.directories
    · obtain ⟨fd, content, hdone, hcontent, htemps, ht⟩ :=
        Process.tempAt?_open h.registered h.indexed flags hr hu.1 hu.2
      have hact := Process.tempAct?_open hr hu.1 hdone
      have hevent : (p.tempEvent? (.call (.open_ path flags))).toList =
          if flags.truncate ∧ flags.write then [.truncated target] else [] := by
        change (p.openEvent? path flags).toList = _
        simp only [Process.openEvent?, hr, hdone, Progress.succeeded, hu.1, true_and]
        split <;> rfl
      rw [Keeps, hact]
      have hnames := h.toNames.open_ htemps hcontent (fun d found hd =>
        Nat.ne_of_lt (h.registered.lt_of_lookup (Process.tempAt?_eq_some_iff.1 hd).1)) ht
      refine ⟨_, h.of_names _ ?_ hnames⟩
      rw [hevent]
      rfl
    · exact h.keeps_open_other flags hr hu

theorem keeps_call (h : Follows number m p) (c : Syscall) : Keeps m p (.call c) := by
  have hp := h.registered
  cases c with
  | open_ path flags => exact h.keeps_open path flags
  | close fd => exact h.keeps_close fd
  | onFile fd c => exact h.keeps_onFile fd c
  | dup fd => exact h.keeps_dup fd
  | dup2 fd target => exact h.keeps_dup2 fd target
  | socket domain type protocol =>
    refine ⟨number, h.kept rfl ?_⟩
    change Process.HandlesKept p (p.startSocket domain type protocol).state
    unfold Process.startSocket
    split
    · exact .refl p
    · exact Process.handlesKept_allocate hp nofun
  | onSocket fd c =>
    refine ⟨number, h.kept rfl ?_⟩
    have hnext : ∀ next, (∀ d, next ≠ Afterwards.dialed d) → ∀ c,
        Process.HandlesKept p (p.startOnSocket fd next c).state := fun next hne c =>
      .startOnSocket (.refl p) hp fd (fun d hd => absurd hd (hne d)) c
    cases c <;> exact hnext _ (fun _ hd => by cases hd) _
  | resolve network address =>
    exact ⟨number, h.kept rfl (.startLocate hp network address false)⟩
  | dial network address =>
    exact ⟨number, h.kept rfl (.startLocate hp network address true)⟩
  | mkdir path => exact ⟨number, h.kept rfl (.onTree fun t => Process.TempsKept.makeDirectory)⟩
  | rmdir path => exact ⟨number, h.kept rfl (.onTree fun t => Process.TempsKept.removeDirectory)⟩
  | unlink path => exact ⟨number, h.kept rfl (.onTree fun t => Process.TempsKept.unlink)⟩
  | setenv key value =>
    refine ⟨number, h.kept rfl ?_⟩
    change Process.HandlesKept p (p.startSetenv key value).state
    unfold Process.startSetenv
    split <;> exact ⟨fun _ => rfl, rfl⟩
  | symlink | unsetenv | fsync | stat | readlink | getenv | environ | getpid | missing =>
    exact ⟨number, h.kept rfl ⟨fun _ => rfl, rfl⟩⟩

theorem keeps (h : Follows number m p) (e : ProcessEvent) : Keeps m p e := by
  cases e with
  | call c => exact h.keeps_call c
  | answer q a => exact h.keeps_answer q a

/-- A process and its machine go on together. -/
theorem run (h : Follows number m p) (events : List ProcessEvent) :
    ∃ number', Follows number' (p.openTemps m events) (p.run events) := by
  induction events generalizing number m p with
  | nil => exact ⟨number, h⟩
  | cons e events ih =>
    obtain ⟨number', hnext⟩ := h.keeps e
    exact ih hnext

end Follows

theorem follows_create (s : Settings) : Follows id {} (Process.create s) where
  file _ _ hd := by cases hd
  empty fd _ := Process.tempAt?_create s fd
  apart _ _ _ _ hd := by cases hd
  registered := Process.registered_create s
  indexed := Process.indexed_create s
  shown _ := shown_nil

namespace Follows

variable {number : Nat → Nat} {m : OpenTemps} {p : Process}

/-- The descriptors of the machine are those of temp files. -/
theorem temp_iff (h : Follows number m p) (fd : Nat) :
    (∃ file x, p.table.lookup fd = .ok file ∧ p.store.file file = .temp x) ↔
      (m.file? fd).isSome := by
  constructor
  · rintro ⟨file, x, hfile, hx⟩
    have hat := Process.tempAt?_eq_some_iff.2 ⟨hfile, hx⟩
    cases hn : m.descriptors fd with
    | none =>
      rw [h.empty fd hn] at hat
      cases hat
    | some n =>
      obtain ⟨x', -, hx', -⟩ := h.file fd n hn
      rw [file?, hn, Option.bind_some, hx']
      rfl
  · intro hsome
    cases hn : m.descriptors fd with
    | none =>
      rw [file?, hn] at hsome
      cases hsome
    | some n =>
      obtain ⟨x, content, -, -, hat⟩ := h.file fd n hn
      exact ⟨_, _, Process.tempAt?_eq_some_iff.1 hat⟩

/-- Calls on temp files are answered at once, and as the machine answers them. -/
theorem answer_eq (h : Follows number m p) {fd : Nat} {x : OpenTemp} (hx : m.file? fd = some x)
    (c : FileCall) :
    (p.start (.onFile fd c)).progress = .done (x.call (m.writes x.path) c).answer := by
  obtain ⟨n, hn, hx'⟩ := Option.bind_eq_some_iff.1 hx
  obtain ⟨x', content, hfound, hcontent, hat⟩ := h.file fd n hn
  cases hfound.symm.trans hx'
  obtain ⟨hlookup, -⟩ := Process.tempAt?_eq_some_iff.1 hat
  change (p.startOnFile fd c).progress = _
  rw [Process.startOnFile_of_lookup hlookup, Turn.map, (h.serves hcontent hat c).answer]
  cases (x.call (m.writes x.path) c).answer <;> rfl

/-- The bytes at a path change by a write through a descriptor that is open on it, or by a
truncating open that comes to it. -/
theorem of_tempBytes_ne (h : Follows number m p) {e : ProcessEvent} {path : String}
    (hne : (p.next e).tempBytes path ≠ p.tempBytes path) :
    (∃ fd x c, e = .call (.onFile fd c) ∧ m.file? fd = some x ∧ x.path = path ∧
      (x.call (m.writes path) c).written.isSome) ∨
    ∃ given flags, e = .call (.open_ given flags) ∧ p.tree.links.resolve given = .ok path ∧
      flags.truncate ∧ flags.write := by
  have hbytes := (Process.follow_next h.indexed e).bytes path
  cases hev : p.tempEvent? e with
  | none =>
    rw [hev] at hbytes
    exact absurd hbytes hne
  | some ev =>
    rw [hev] at hbytes
    have hchanged : ev.after path (p.tempBytes path) ≠ p.tempBytes path :=
      fun heq => hne (hbytes.trans heq)
    unfold Process.tempEvent? at hev
    split at hev
    · next given flags =>
      obtain ⟨target, hr, htrunc, hwrite, rfl⟩ := Process.openEvent?_eq_some hev
      have hpath : path = target := by
        by_contra hother
        exact hchanged (if_neg hother)
      exact .inr ⟨given, flags, rfl, hpath ▸ hr, htrunc, hwrite⟩
    · next fd c =>
      cases hn : m.descriptors fd with
      | none =>
        rw [Process.fileEvent?_of_none (h.empty fd hn)] at hev
        cases hev
      | some n =>
        obtain ⟨x, content, hx, hcontent, hat⟩ := h.file fd n hn
        rw [h.fileEvent?_eq hcontent hat] at hev
        obtain ⟨w, hw, rfl⟩ := Option.map_eq_some_iff.1 hev
        have hpath : path = x.path := by
          by_contra hother
          exact hchanged (if_neg hother)
        refine .inl ⟨fd, x, c, rfl, ?_, hpath.symm, ?_⟩
        · rw [file?, hn, Option.bind_some, hx]
        · rw [hpath, hw]
          rfl
    · cases hev

end Follows

end OpenTemps

namespace Process

theorem openTemps_append (p : Process) (m : OpenTemps) (events : List ProcessEvent)
    (e : ProcessEvent) : p.openTemps m (events ++ [e]) =
      (((p.run events).tempAct? e).elim (p.openTemps m events) (p.openTemps m events).step) := by
  induction events generalizing p m with
  | nil => rfl
  | cons first events ih => exact ih (p.next first) _

/-- Temp files under any calls, with any answers of the host and `TMPDIR` wherever it is set to,
beside the machine that the calls drive. A path has as many bytes as the writes to it since it was
last truncated reach, and each is the one that the latest of them over its place wrote, or zero.
The machine has an open file for a descriptor exactly when that is a temp file, and every call on
it is answered as the open file with its own cursor answers it, so that a read gives the bytes of
its path from there on. The path that is opened is the one at the end of the links, and the open
file starts there at place 0. Only a write through a descriptor that is open on a path or a
truncating open of it changes its bytes. -/
theorem temp_bytes_are_latest_writes (s : Settings) (events : List ProcessEvent) (path : String) :
    let p := (create s).run events
    let m := (create s).openTemps {} events
    let bytes := p.tempBytes path
    let ws := m.writes path
    (bytes.length = extent ws ∧ ∀ i (hi : i < bytes.length), bytes[i] = (latest? ws i).getD 0) ∧
    (∀ fd, (∃ file h, p.table.lookup fd = .ok file ∧ p.store.file file = .temp h) ↔
      (m.file? fd).isSome) ∧
    (∀ fd x c, m.file? fd = some x →
      (p.start (.onFile fd c)).progress = .done (x.call (m.writes x.path) c).answer) ∧
    (∀ given flags, p.tree.links.resolve given = .ok path → Path.isUnder path p.tmpDir →
      path ∉ p.tree.directories →
      ∃ fd, (p.start (.open_ given flags)).progress = .done (.ok (.number fd)) ∧
        ((create s).openTemps {} (events ++ [.call (.open_ given flags)])).file? fd =
          some { path, flags }) ∧
    (∀ fd x, m.file? fd = some x → x.path = path → ∀ r,
      ((p.start (.onFile fd .stat)).progress = .done (.ok r) → r = .stat (.regular bytes.length)) ∧
      (∀ size, (p.start (.onFile fd (.read size))).progress = .done (.ok r) →
        ReadsAt bytes x.cursor size r) ∧
      (∀ size offset, (p.start (.onFile fd (.readAt size offset))).progress = .done (.ok r) →
        ReadsAt bytes offset size r)) ∧
    (∀ e, (p.next e).tempBytes path ≠ bytes →
      (∃ fd x c, e = .call (.onFile fd c) ∧ m.file? fd = some x ∧ x.path = path ∧
        (x.call ws c).written.isSome) ∨
      (∃ given flags, e = .call (.open_ given flags) ∧ p.tree.links.resolve given = .ok path ∧
        flags.truncate ∧ flags.write)) := by
  intro p m bytes ws
  obtain ⟨number, h⟩ : ∃ number, OpenTemps.Follows number m p :=
    (OpenTemps.follows_create s).run events
  have hshown : Shown ws bytes := h.shown path
  refine ⟨⟨hshown.length, hshown.getElem⟩, h.temp_iff, fun fd x c hx => h.answer_eq hx c, ?_, ?_,
    fun e hne => h.of_tempBytes_ne hne⟩
  · intro given flags hr hu hd
    obtain ⟨fd, content, hdone, -⟩ := tempAt?_open h.registered h.indexed flags hr hu hd
    refine ⟨fd, hdone, ?_⟩
    rw [openTemps_append, tempAct?_open hr hu hdone]
    exact OpenTemps.file?_open m fd path flags
  · rintro fd x hx rfl r
    have hanswer : ∀ {c}, (p.start (.onFile fd c)).progress = .done (.ok r) →
        (x.call ws c).answer = .ok r := fun {c} hr =>
      Progress.done.inj ((h.answer_eq hx c).symm.trans hr)
    refine ⟨fun hr => ?_, fun size hr => OpenTemp.readsAt_cursor hshown (hanswer hr),
      fun size offset hr => OpenTemp.readsAt_offset hshown (hanswer hr)⟩
    rw [hshown.length]
    exact OpenTemp.eq_of_stat (hanswer hr)

/-- Two descriptors with one cursor: a seek through one is seen by the read through the other, and
a write at an offset moves neither. -/
example :
    let hello : Bytes := [104, 101, 108, 108, 111, 32, 119, 111, 114, 108, 100]
    let m := (create {}).openTemps {} [.call (.open_ "/tmp/a" .readWrite),
      .call (.onFile 3 (.write hello "")), .call (.dup 3), .call (.onFile 3 (.seek (.fromStart 6))),
      .call (.onFile 3 (.writeAt [72] 0)), .call (.onFile 4 (.read 5))]
    m.file? 3 = some { path := "/tmp/a", flags := .readWrite, cursor := 11 } ∧
      m.file? 4 = m.file? 3 ∧ bytesFrom (m.writes "/tmp/a") 0 5 = [72, 101, 108, 108, 111] := by
  decide +kernel

end Process

end SyscallBridge
