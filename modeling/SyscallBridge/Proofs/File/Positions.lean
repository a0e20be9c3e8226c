import SyscallBridge.Proofs.File.Checked
import SyscallBridge.Proofs.File.Frame

/-!
# Cursors at the limits

Cursors may stand anywhere in 64 bits, far past the end of a file, while files keep within the
largest size. Both are so after every run of reads, writes and seeks, with whatever offsets, and
then no call in machine words has a fault, a seek goes to its exact target whenever that is one of
64 bits, and behind the end there is nothing to read.
-/

namespace SyscallBridge

inductive FileEvent where
  | fixed (bytes : Bytes)
  | shared (path : String)
  | handle (content : Nat) (flags : OpenFlags)
  | call (id : Nat) (c : FileCall)
  deriving DecidableEq, Repr

/-- Fixed bytes are addressed by words, and calls are in range. -/
def FileEvent.inRange : FileEvent → Bool
  | fixed bytes => bytes.length < UInt64.size
  | shared _ | handle .. => true
  | call _ c => c.inRange

/-- The file is fixed or temp, and its cursor is a word. -/
def OpenFile.InBounds : OpenFile → Prop
  | fixed bytes cursor => bytes.length < UInt64.size ∧ cursor < UInt64.size
  | temp h => h.closed = false ∧ h.cursor < UInt64.size
  | unsupported => True
  | console _ | random _ | socket _ => False

theorem length_of_writeAt {bytes data bytes' : Bytes} {offset : Nat}
    (hsize : bytes.length ≤ maxFileSize) (hw : writeAt bytes data offset = .ok bytes') :
    bytes'.length ≤ maxFileSize := by
  unfold writeAt at hw
  split at hw
  · cases hw
    exact hsize
  · split at hw
    · next hfits =>
      cases hw
      rw [length_splice]
      exact Nat.max_le.mpr ⟨hsize, hfits⟩
    · cases hw

namespace TempHandle

variable {h : TempHandle} {bytes : Bytes}

theorem seek_of_open (isOpen : h.closed = false) (t : SeekTarget) :
    h.seek bytes t = (t.resolve h.cursor bytes.length).map fun cursor => { h with cursor } := by
  rw [seek, checkOpen_of_open isOpen]
  cases t.resolve h.cursor bytes.length <;> rfl

theorem read_of_open (isOpen : h.closed = false) (size : Nat) :
    h.read bytes size =
      if h.readable then
        .ok (bytes.window h.cursor size,
          { h with cursor := h.cursor + (bytes.window h.cursor size).length })
      else .error (.notOpenFor "reading") := by
  rw [read, checkReadable_of_open isOpen]
  cases h.readable <;> rfl

theorem readAt_of_open (isOpen : h.closed = false) (size offset : Nat) :
    h.readAt bytes size offset =
      if h.readable then .ok (bytes.window offset size) else .error (.notOpenFor "reading") := by
  rw [readAt, checkReadable_of_open isOpen]
  cases h.readable <;> rfl

theorem write_bounds {h' : TempHandle} {data : Bytes} {r : Except CallError Bytes}
    (hcursor : h.cursor < UInt64.size) (hsize : bytes.length < UInt64.size)
    (hw : h.write bytes data = (h', r)) : h'.closed = h.closed ∧ h'.cursor < UInt64.size := by
  have hposition : h.position bytes < UInt64.size := by
    unfold position
    split
    · exact hsize
    · exact hcursor
  have hwrote := h.wrote bytes data
  rw [hw] at hwrote
  cases hwrote with
  | access => exact ⟨rfl, hcursor⟩
  | size => exact ⟨rfl, hposition⟩
  | done _ _ hfits => exact ⟨rfl, add_written_lt hposition hfits⟩

end TempHandle

namespace FileStore

/-- The store after an event. A handle that is to write and to truncate empties its content. -/
def next (fs : FileStore) : FileEvent → FileStore
  | .fixed bytes => (fs.add (.fixed bytes 0)).2
  | .shared path => (fs.addContent path).2
  | .handle content flags =>
    let fs := if flags.truncate ∧ flags.write then fs.setBytes content [] else fs
    (fs.add (.temp (.open_ content flags))).2
  | .call id c => (fs.start id c).state

def run (fs : FileStore) (events : List FileEvent) : FileStore := events.foldl next fs

def next? (fs : FileStore) : FileEvent → Option FileStore
  | .call id c => (fs.start? id c).map (·.state)
  | e => some (fs.next e)

def run? (fs : FileStore) (events : List FileEvent) : Option FileStore := events.foldlM next? fs

/-- Where a file stands, how long it is, and whether it is to be read. -/
structure Standing where
  cursor : Nat
  size : Nat
  readable : Bool
  deriving DecidableEq, Repr

def standing? (fs : FileStore) (id : Nat) : Option Standing :=
  match fs.file id with
  | .fixed bytes cursor => some ⟨cursor, bytes.length, true⟩
  | .temp h => some ⟨h.cursor, (fs.bytes h.content).length, h.readable⟩
  | .console _ | .random _ | .socket _ | .unsupported => none

structure InBounds (fs : FileStore) : Prop where
  files : ∀ id, (fs.file id).InBounds
  sizes : ∀ content, (fs.bytes content).length ≤ maxFileSize

namespace InBounds

variable {fs : FileStore}

theorem empty : InBounds {} := ⟨fun _ => trivial, fun _ => Nat.zero_le _⟩

theorem add (h : fs.InBounds) {f : OpenFile} (hf : f.InBounds) : (fs.add f).2.InBounds where
  files id := by
    rw [file_add]
    split
    · exact hf
    · exact h.files id
  sizes := h.sizes

theorem set (h : fs.InBounds) (id : Nat) {f : OpenFile} (hf : f.InBounds) :
    (fs.set id f).InBounds where
  files other := by
    rw [file_set]
    split
    · exact hf
    · exact h.files other
  sizes := h.sizes

theorem setBytes (h : fs.InBounds) (content : Nat) {bytes : Bytes}
    (hbytes : bytes.length ≤ maxFileSize) : (fs.setBytes content bytes).InBounds where
  files := h.files
  sizes other := by
    rw [FileStore.bytes, find?_setBytes]
    split
    · cases fs.contents.find? content with
      | none => exact Nat.zero_le _
      | some c => exact hbytes
    · exact h.sizes other

theorem addContent (h : fs.InBounds) (path : String) : (fs.addContent path).2.InBounds where
  files := h.files
  sizes content := by
    simp only [FileStore.bytes, FileStore.addContent, Assoc.find?_insert]
    split
    · exact Nat.zero_le _
    · exact h.sizes content

theorem word (h : fs.InBounds) (content : Nat) : (fs.bytes content).length < UInt64.size :=
  Nat.lt_of_le_of_lt (h.sizes content) (by decide)

theorem startFixed (h : fs.InBounds) {id : Nat} {bytes : Bytes} {cursor : Nat}
    (hfile : fs.file id = .fixed bytes cursor) (c : FileCall) :
    (fs.startFixed id bytes cursor c).state.InBounds := by
  have hbounds : bytes.length < UInt64.size ∧ cursor < UInt64.size := by
    have := h.files id
    rwa [hfile] at this
  cases c with
  | read size => exact h.set id ⟨hbounds.1, Bytes.add_window_lt hbounds.2 hbounds.1 size⟩
  | seek t =>
    simp only [FileStore.startFixed]
    cases ht : t.resolve cursor bytes.length with
    | ok n => exact h.set id ⟨hbounds.1, ((t.resolve_eq_ok_iff _ _ _).mp ht).2⟩
    | error e => exact h
  | stat | write | readAt | writeAt | close => exact h

theorem startTemp (h : fs.InBounds) {id : Nat} {x : TempHandle} (hfile : fs.file id = .temp x)
    {c : FileCall} (hc : c.inRange = true) : (fs.startTemp id x c).state.InBounds := by
  obtain ⟨hopen, hcursor⟩ : x.closed = false ∧ x.cursor < UInt64.size := by
    have := h.files id
    rwa [hfile] at this
  cases c with
  | read size =>
    simp only [FileStore.startTemp]
    cases hr : x.read (fs.bytes x.content) size with
    | ok found =>
      obtain ⟨hgot, hmoved⟩ := TempHandle.read_eq_ok hr
      refine h.set id ?_
      rw [hmoved, hgot]
      exact ⟨hopen, Bytes.add_window_lt hcursor (h.word _) size⟩
    | error e => exact h
  | seek t =>
    simp only [FileStore.startTemp]
    cases hs : x.seek (fs.bytes x.content) t with
    | ok x' =>
      obtain ⟨n, hn, hmoved⟩ := TempHandle.seek_eq_ok hs
      refine h.set id ?_
      rw [hmoved]
      exact ⟨hopen, ((t.resolve_eq_ok_iff _ _ _).mp hn).2⟩
    | error e => exact h
  | writeAt data offset =>
    simp only [FileStore.startTemp]
    cases hw : x.writeAt (fs.bytes x.content) data offset with
    | ok bytes' =>
      exact h.setBytes _ (length_of_writeAt (h.sizes _) (TempHandle.writeAt_eq_ok hw))
    | error e => exact h
  | write data source =>
    simp only [FileStore.startTemp]
    cases hw : x.write (fs.bytes x.content) data with
    | mk x' r =>
      obtain ⟨hclosed, hmoved⟩ := TempHandle.write_bounds hcursor (h.word _) hw
      have hset := h.set id (f := .temp x') ⟨hclosed.trans hopen, hmoved⟩
      cases r with
      | ok bytes' =>
        exact hset.setBytes _ (length_of_writeAt (h.sizes _) (TempHandle.write_ok hw))
      | error e => exact hset
  | readAt => exact h
  | stat | close => cases hc

theorem next (h : fs.InBounds) {e : FileEvent} (he : e.inRange = true) : (fs.next e).InBounds := by
  cases e with
  | fixed bytes => exact h.add ⟨of_decide_eq_true he, by decide⟩
  | shared path => exact h.addContent path
  | handle content flags =>
    refine InBounds.add ?_ ⟨rfl, show 0 < UInt64.size by decide⟩
    split
    · exact h.setBytes content (Nat.zero_le _)
    · exact h
  | call id c =>
    change (fs.start id c).state.InBounds
    have hbounds := h.files id
    rw [start]
    cases hfile : fs.file id with
    | fixed bytes cursor => exact h.startFixed hfile c
    | temp x => exact h.startTemp hfile he
    | unsupported => cases c <;> exact h
    | console | random | socket =>
      rw [hfile] at hbounds
      exact hbounds.elim

theorem run (h : fs.InBounds) {events : List FileEvent}
    (hevents : ∀ e ∈ events, e.inRange = true) : (fs.run events).InBounds := by
  induction events generalizing fs with
  | nil => exact h
  | cons e events ih =>
    exact ih (h.next (hevents e List.mem_cons_self)) fun e' he' =>
      hevents e' (List.mem_cons_of_mem e he')

theorem start?_eq (h : fs.InBounds) (id : Nat) {c : FileCall} (hc : c.inRange = true) :
    fs.start? id c = some (fs.start id c) := by
  have hbounds := h.files id
  rw [start?, start]
  cases hfile : fs.file id with
  | fixed bytes cursor =>
    rw [hfile] at hbounds
    exact startFixed?_eq hbounds.1 hbounds.2 hc
  | temp x =>
    rw [hfile] at hbounds
    exact startTemp?_eq (h.sizes _) hbounds.2 hc
  | console | random | socket | unsupported => rfl

theorem next?_eq (h : fs.InBounds) {e : FileEvent} (he : e.inRange = true) :
    fs.next? e = some (fs.next e) := by
  cases e with
  | call id c => exact congrArg (Option.map _) (h.start?_eq id he)
  | fixed | shared | handle => rfl

theorem run?_eq (h : fs.InBounds) {events : List FileEvent}
    (hevents : ∀ e ∈ events, e.inRange = true) : fs.run? events = some (fs.run events) := by
  induction events generalizing fs with
  | nil => rfl
  | cons e events ih =>
    have he := hevents e List.mem_cons_self
    rw [run?, List.foldlM_cons, h.next?_eq he]
    exact ih (h.next he) fun e' he' => hevents e' (List.mem_cons_of_mem e he')

end InBounds

/-- What seeks and reads come to on a file that stands at `s`. -/
structure Positioned (fs : FileStore) (id : Nat) (s : Standing) : Prop where
  /-- A target of 64 bits is where the cursor goes. -/
  seek_exact : ∀ (t : SeekTarget) (n : Nat), t.position s.cursor s.size = n → n < UInt64.size →
    (fs.start id (.seek t)).progress = .done (.ok (.number n)) ∧
    (fs.start id (.seek t)).state.standing? id = some { s with cursor := n }
  seek_outside : ∀ t : SeekTarget, ¬ (0 ≤ t.position s.cursor s.size ∧
      t.position s.cursor s.size < UInt64.size) →
    fs.start id (.seek t) = .fail fs (.invalidArgument "seek before start of file")
  read_behind : ∀ size, s.readable = true → s.size ≤ s.cursor →
    (fs.start id (.read size)).progress = .done (.ok (.data [])) ∧
    (fs.start id (.read size)).state.standing? id = some s
  readAt_behind : ∀ size offset, s.readable = true → s.size ≤ offset →
    fs.start id (.readAt size offset) = .ok fs (.data [])
  /-- A handle that is not for reading says so, wherever it stands. -/
  unreadable : ∀ size offset, s.readable = false →
    fs.start id (.read size) = .fail fs (.notOpenFor "reading") ∧
    fs.start id (.readAt size offset) = .fail fs (.notOpenFor "reading")

variable {fs : FileStore} {id : Nat}

theorem resolve_outside {t : SeekTarget} {cursor size : Nat}
    (h : ¬ (0 ≤ t.position cursor size ∧ t.position cursor size < UInt64.size)) :
    t.resolve cursor size = .error (.invalidArgument "seek before start of file") := if_neg h

theorem window_behind {bytes : Bytes} {offset : Nat} (h : bytes.length ≤ offset) (size : Nat) :
    bytes.window offset size = [] := by
  rw [Bytes.window, List.drop_of_length_le h, List.take_nil]

theorem positioned_fixed {bytes : Bytes} {cursor : Nat} (hfile : fs.file id = .fixed bytes cursor) :
    fs.Positioned id ⟨cursor, bytes.length, true⟩ := by
  have hstart : ∀ c, fs.start id c = fs.startFixed id bytes cursor c := fun c => by
    rw [start, hfile]
  have hstanding : ∀ n, (fs.set id (.fixed bytes n)).standing? id =
      some ⟨n, bytes.length, true⟩ := fun n => by
    rw [standing?, file_set, if_pos rfl]
  constructor
  · intro t n hn hword
    have hresolve := (t.resolve_eq_ok_iff cursor bytes.length n).mpr ⟨hn, hword⟩
    rw [hstart, startFixed, hresolve]
    exact ⟨rfl, hstanding n⟩
  · intro t hout
    rw [hstart, startFixed, resolve_outside hout]
  · intro size _ hend
    rw [hstart, startFixed, window_behind hend]
    exact ⟨rfl, hstanding cursor⟩
  · intro size offset _ hend
    rw [hstart, startFixed, window_behind hend]
  · intro size offset hread
    cases hread

theorem positioned_temp {h : TempHandle} (hfile : fs.file id = .temp h)
    (isOpen : h.closed = false) :
    fs.Positioned id ⟨h.cursor, (fs.bytes h.content).length, h.readable⟩ := by
  have hstart : ∀ c, fs.start id c = fs.startTemp id h c := fun c => by rw [start, hfile]
  have hstanding : ∀ n, (fs.set id (.temp { h with cursor := n })).standing? id =
      some ⟨n, (fs.bytes h.content).length, h.readable⟩ := fun n => by
    rw [standing?, file_set, if_pos rfl]
    rfl
  constructor
  · intro t n hn hword
    have hresolve := (t.resolve_eq_ok_iff h.cursor (fs.bytes h.content).length n).mpr ⟨hn, hword⟩
    rw [hstart, startTemp, TempHandle.seek_of_open isOpen, hresolve]
    exact ⟨rfl, hstanding n⟩
  · intro t hout
    rw [hstart, startTemp, TempHandle.seek_of_open isOpen, resolve_outside hout]
    rfl
  · intro size hread hend
    rw [hstart, startTemp, TempHandle.read_of_open isOpen, if_pos hread, window_behind hend]
    exact ⟨rfl, hstanding h.cursor⟩
  · intro size offset hread hend
    rw [hstart, startTemp, TempHandle.readAt_of_open isOpen, if_pos hread, window_behind hend]
    rfl
  · intro size offset hread
    have hno : ¬ h.readable = true := Bool.not_eq_true _ ▸ hread
    rw [hstart, hstart, startTemp, startTemp, TempHandle.read_of_open isOpen,
      TempHandle.readAt_of_open isOpen, if_neg hno, if_neg hno]
    exact ⟨rfl, rfl⟩

-- A handle is open all along since no event closes one.
theorem InBounds.positioned (h : fs.InBounds) {s : Standing} (hs : fs.standing? id = some s) :
    fs.Positioned id s := by
  have hbounds := h.files id
  unfold standing? at hs
  cases hfile : fs.file id with
  | fixed bytes cursor =>
    rw [hfile] at hs
    cases hs
    exact positioned_fixed hfile
  | temp x =>
    rw [hfile] at hs hbounds
    cases hs
    exact positioned_temp hfile hbounds.1
  | console | random | socket | unsupported =>
    rw [hfile] at hs
    cases hs

/-- After any run of reads, writes and seeks, each with whatever offset of 64 bits, no call in
machine words has a fault, seeks go to their exact target or nowhere, nothing is read behind the
end, and every temp file is within the largest size. -/
theorem positions_hold_at_limits (events : List FileEvent)
    (hevents : ∀ e ∈ events, e.inRange = true) :
    let fs := ({} : FileStore).run events
    ({} : FileStore).run? events = some fs ∧
    (∀ id c, c.inRange = true → fs.start? id c = some (fs.start id c)) ∧
    (∀ id s, fs.standing? id = some s → fs.Positioned id s) ∧
    ∀ content, (fs.bytes content).length ≤ maxFileSize := by
  intro fs
  have hbounds : fs.InBounds := InBounds.empty.run hevents
  exact ⟨InBounds.empty.run?_eq hevents, fun id c hc => hbounds.start?_eq id hc,
    fun id s hs => hbounds.positioned hs, hbounds.sizes⟩

/-- With the cursor at the last word there is nothing to read, one step on is refused, and the way
back by the lowest offset is taken. -/
theorem positions_hold_at_limits_last_word :
    let events : List FileEvent := [.shared "/tmp/a",
      .handle 0 { read := true, write := true }, .call 0 (.write [97, 98, 99] ""),
      .call 0 (.seek (.fromStart 18446744073709551615)), .call 0 (.write [120] ""),
      .call 0 (.writeAt [120] 18446744073709551615)]
    let fs := ({} : FileStore).run events
    (∀ e ∈ events, e.inRange = true) ∧ ({} : FileStore).run? events = some fs ∧
    fs.standing? 0 = some ⟨18446744073709551615, 3, true⟩ ∧
    (fs.start 0 (.read 8)).progress = .done (.ok (.data [])) ∧
    fs.start 0 (.seek (.fromCursor 1)) = .fail fs (.invalidArgument "seek before start of file") ∧
    (fs.start 0 (.seek (.fromCursor (-9223372036854775808)))).progress =
      .done (.ok (.number 9223372036854775807)) := by
  intro events fs
  have hevents : ∀ e ∈ events, e.inRange = true := by decide
  obtain ⟨hrun, -, hpositioned, -⟩ := positions_hold_at_limits events hevents
  have hstands : fs.standing? 0 = some ⟨18446744073709551615, 3, true⟩ := by decide
  have hlast := hpositioned 0 _ hstands
  exact ⟨hevents, hrun, hstands, (hlast.read_behind 8 rfl (by decide)).1,
    hlast.seek_outside (.fromCursor 1) (by decide),
    (hlast.seek_exact (.fromCursor (-9223372036854775808)) 9223372036854775807 rfl (by decide)).1⟩

end FileStore

end SyscallBridge
