import SyscallBridge.Proofs.Process.Dialing
import SyscallBridge.Proofs.Process.Sockets

/-!
# Turns of a process as moves

Every turn of the process is made of moves, whatever is called and whatever the host answers. What
comes with an answer is given in one of them, and a call that has to wait works on a socket and asks
of what that one has.
-/

namespace SyscallBridge.Process

variable {p p' : Process} {e : ProcessEvent} {given closed : List Resource} {x : Resource}

/-- A turn is made of moves, which take what comes with the answer; and a call that it leaves
waiting works on a socket, which asks in a turn of its own, of what it has. -/
structure TurnOwns (e : ProcessEvent) (p : Process) (t : Step) : Prop where
  moves : ∃ given, ProcessMoves e p given (closings t.effects) t.state ∧
    ∀ x, e.given? = some x → x ∈ given
  asks : ∀ q, t.progress = .pending q → t.state.Fits q ∧
    ∀ x, q.request.resource? = some x → ∃ file s, t.state.store.file file = .socket s ∧
      s.endpoint.resource? = some x
  asked : ∀ file q next, t.progress = .pending (.onSocket file q next) → ∃ s event,
    (p.store.file file = .socket s ∨ p.store.nextFile ≤ file ∧ s.endpoint = .unbound) ∧
      e.Runs file event ∧ TurnSound s event (event.turn s) ∧
      (event.turn s).progress = .pending q ∧
      t.state.store.file file = .socket (event.turn s).state

namespace TurnOwns

variable {t : Step}

/-- A turn that ends the call, without an answer that gives anything. -/
theorem ends (hm : ProcessMoves e p given (closings t.effects) t.state) (he : e.given? = none)
    (hdone : ∃ r, t.progress = .done r) : TurnOwns e p t where
  moves := ⟨given, hm, fun x hx => by rw [he] at hx; cases hx⟩
  asks := by
    intro q hq
    obtain ⟨r, hr⟩ := hdone
    cases hr.symm.trans hq
  asked := by
    intro file q next hq
    obtain ⟨r, hr⟩ := hdone
    cases hr.symm.trans hq

theorem keeps (he : e.given? = none) (table : t.state.table = p.table)
    (nextFile : t.state.store.nextFile = p.store.nextFile)
    (files : ∀ f, t.state.store.file f = p.store.file f) (hclosed : closings t.effects = [])
    (hdone : ∃ r, t.progress = .done r) : TurnOwns e p t := by
  have hmoves : ProcessMoves e p [] (closings t.effects) t.state := by
    rw [hclosed]
    exact .single (.keeps table nextFile files)
  exact ends hmoves he hdone

theorem fail (he : e.given? = none) (err : CallError) : TurnOwns e p (.fail p err) :=
  keeps he rfl rfl (fun _ => rfl) rfl ⟨_, rfl⟩

end TurnOwns

theorem move_release (hr : Registered p) {fd : Nat} {shut : Option Nat}
    {table : DescriptorTable Nat} (hrelease : p.table.release fd = .ok (shut, table)) :
    ProcessMove e p [] (closings (closeFile { p with table } shut).2)
      (closeFile { p with table } shut).1 :=
  .drops (hr.accounted.release hrelease) (DescriptorTable.release_drops hrelease)

/-- Only what was accepted is put in a new file. -/
theorem moves_finish (hr : Registered p) (next : Afterwards)
    (result : Except CallError SocketReply)
    (origin : ∀ s peer, next = .allocate → result = .ok (.accepted s peer) → e.Opens (.socket s)) :
    ∃ given, ProcessMoves e p given (closings (p.finish next result).2.1)
        (p.finish next result).1 ∧
      ∀ s peer x, next = .allocate → result = .ok (.accepted s peer) →
        s.endpoint.resource? = some x → x ∈ given := by
  have hkeeps (hn : ∀ s peer, ¬ (next = .allocate ∧ result = .ok (.accepted s peer))) {p' : Process}
      {closed : List Resource} (hm : ProcessMoves e p [] closed p') :
      ∃ given, ProcessMoves e p given closed p' ∧
        ∀ s peer x, next = .allocate → result = .ok (.accepted s peer) →
          s.endpoint.resource? = some x → x ∈ given :=
    ⟨[], hm, fun s peer x h₁ h₂ => absurd ⟨h₁, h₂⟩ (hn s peer)⟩
  cases next with
  | nothing => cases result <;> exact hkeeps (by simp) (.nil p)
  | allocate =>
    cases result with
    | error err => exact hkeeps (by simp) (.nil p)
    | ok r =>
      cases r with
      | plain r => exact hkeeps (by simp) (.nil p)
      | accepted s peer =>
        refine ⟨_, .single (.opens (.socket s) (origin s peer rfl rfl)), ?_⟩
        rintro s' peer' x - ⟨⟩ hx
        exact Option.mem_toList.2 hx
  | dialed fd =>
    cases result with
    | ok r => exact hkeeps (by simp) (.nil p)
    | error err =>
      refine hkeeps (by simp) ?_
      simp only [finish, Process.release]
      cases hrelease : p.table.release fd with
      | ok found => exact .single (move_release hr hrelease)
      | error err => exact .nil p

/-- A turn of a socket, with what is done when it is over. -/
theorem owns_socketTurn (hr : Registered p) {file : Nat} {s : Socket} (event : SocketEvent)
    (next : Afterwards) (hlt : file < p.store.nextFile)
    (socket : p.store.file file = .socket s) (runs : e.Runs file event)
    (sound : TurnSound s event (event.turn s))
    (asks : ∀ q, (event.turn s).progress = .pending q → (q.accepts = true ↔ next = .allocate) ∧
      ∀ x, q.request.resource? = some x → (event.turn s).state.endpoint.resource? = some x)
    (origin : ∀ s' peer, next = .allocate →
      (event.turn s).progress = .done (.ok (.accepted s' peer)) → e.Opens (.socket s'))
    (taken : ∀ x, e.given? = some x → event.obtained? = some x ∨ ∃ s' peer,
      next = .allocate ∧ (event.turn s).progress = .done (.ok (.accepted s' peer)) ∧
        s'.endpoint.resource? = some x) :
    TurnOwns e p (p.socketTurn file next (p.store.socketTurn file (event.turn s))) := by
  have hturn : ProcessMove e p event.obtained?.toList (closings (event.turn s).effects)
      (p.ofStore (p.store.set file (.socket (event.turn s).state))) := .turns socket runs sound
  generalize hevent : event.turn s = t at *
  obtain ⟨state, effects, progress⟩ := t
  cases progress with
  | pending q =>
    have hfile : (p.store.set file (.socket state)).file file = .socket state :=
      (p.store.file_set file _ file).trans (if_pos rfl)
    refine ⟨⟨_, .single hturn, fun x hx => ?_⟩, fun q' hq' => ?_, fun file' q' next' hq' => ?_⟩
    · rcases taken x hx with hx | ⟨s', peer, -, hp, -⟩
      · exact Option.mem_toList.2 hx
      · cases hp
    · cases hq'
      obtain ⟨haccepts, hown⟩ := asks q rfl
      refine ⟨⟨hlt, haccepts, state, hfile, fun protocol own hq => ?_⟩,
        fun x hx => ⟨file, state, hfile, hown x hx⟩⟩
      exact sound.same_protocol.trans (sound.asks_tcp protocol own (hq ▸ rfl))
    · cases hq'
      refine ⟨s, event, Or.inl socket, runs, ?_⟩
      rw [hevent]
      exact ⟨sound, rfl, hfile⟩
  | done result =>
    let q := p.ofStore (p.store.set file (.socket state))
    obtain ⟨given', hfinish, hallocated⟩ := moves_finish (e := e) (hr.move hturn) next result
      fun s' peer hn hresult => origin s' peer hn (hresult ▸ rfl)
    refine ⟨⟨event.obtained?.toList ++ given', ?_, fun x hx => ?_⟩, (fun q hq => nomatch hq),
      fun file' q next' hq => nomatch hq⟩
    · have hboth := (ProcessMoves.single hturn).append hfinish
      have hsame : p.socketTurn file next (p.store.socketTurn file ⟨state, effects, .done result⟩) =
          ⟨(q.finish next result).1, effects ++ (q.finish next result).2.1,
            .done (q.finish next result).2.2⟩ := by cases result <;> rfl
      rw [hsame]
      rwa [← closings_append] at hboth
    · rcases taken x hx with hx | ⟨s', peer, hn, hp, hx⟩
      · exact List.mem_append_left _ (Option.mem_toList.2 hx)
      · cases hp
        exact List.mem_append_right _ (hallocated s' peer x hn rfl hx)

theorem resource?_of_unbound {s : Socket} (hs : s.endpoint = .unbound) :
    (OpenFile.socket s).resource? = none := by
  simp [OpenFile.resource?, OpenFile.socket?, hs, Endpoint.resource?]

theorem owns_startOnSocket (hr : Registered p) (he : e.given? = none) (fd : Nat) (next : Afterwards)
    (c : SocketCall) (hnext : c.accepts = true ↔ next = .allocate) :
    TurnOwns e p (p.startOnSocket fd next c) := by
  unfold Process.startOnSocket
  cases hfd : p.table.lookup fd with
  | error err => exact .fail he err
  | ok file =>
    dsimp only
    cases hs : (p.store.file file).socket? with
    | none => exact .fail he _
    | some s =>
      have socket : p.store.file file = .socket s := OpenFile.eq_socket hs
      refine owns_socketTurn hr (.call c) next (hr.lt_of_lookup hfd) socket (.call e file c)
        (s.sound_start c) (fun q hq => ?_) (fun s' peer hn hp => ?_)
        fun x hx => by rw [he] at hx; cases hx
      · obtain ⟨haccepts, hown⟩ := s.asksOwn_start c q hq
        exact ⟨haccepts ▸ hnext, hown⟩
      · -- a call that accepts has to wait
        have hc : c = .accept := by
          cases c <;> first | rfl | cases hnext.2 hn
        subst hc
        change s.startAccept.progress = _ at hp
        unfold Socket.startAccept at hp
        split at hp <;> cases hp

theorem given?_of_accepts {q : SocketPending} (hq : q.accepts = false) (a : q.request.Answer) :
    q.request.given? a = q.obtained? a := by
  cases q with
  | accepting => cases hq
  | listening | connecting | reading | readingFrom | writing | claiming | sending | receiving => rfl

theorem resume_onSocket {file : Nat} {s : Socket} (socket : p.store.file file = .socket s)
    (q : SocketPending) (next : Afterwards) (a : Except HostFailure q.request.Answer) :
    p.resume (.onSocket file q next) a =
      p.socketTurn file next (p.store.socketTurn file (s.resume q a)) := by
  simp only [Process.resume, FileStore.resumeSocket, socket]

theorem owns_resumeOnSocket (hr : Registered p) {file : Nat} {q : SocketPending}
    {next : Afterwards} (hfits : p.Fits (.onSocket file q next))
    (a : Except HostFailure q.request.Answer) :
    TurnOwns (.answer (.onSocket file q next) a) p (p.resume (.onSocket file q next) a) := by
  obtain ⟨hlt, haccepts, s, socket, hlistens⟩ := hfits
  rw [resume_onSocket socket]
  have hsound := s.sound_resume q a fun protocol own hq => hlistens protocol own hq
  cases hq : q.accepts with
  | false =>
    have hnext : next ≠ .allocate := fun hn => by
      rw [haccepts.2 hn] at hq
      cases hq
    refine owns_socketTurn hr (.answer q a) next hlt socket (.answer file q next a) hsound
      (fun q' hq' => ?_) (fun s' peer hn => absurd hn hnext) fun x hx => Or.inl ?_
    · obtain ⟨hsame, hown⟩ := s.asksOwn_resume q a q' hq'
      exact ⟨by simp [hsame, hnext], hown⟩
    · cases a with
      | ok a => exact (given?_of_accepts hq a).symm.trans hx
      | error f => cases hx
  | true =>
    cases q with
    | accepting l =>
      have hnext := haccepts.1 rfl
      subst hnext
      cases a with
      | error f =>
        exact owns_socketTurn hr (.answer (.accepting l) (.error f)) _ hlt socket
          (.answer file _ _ _) hsound (fun q' hq' => nomatch hq') (fun s' peer hn hp => nomatch hp)
          fun x hx => nomatch hx
      | ok c =>
        refine owns_socketTurn hr (.answer (.accepting l) (.ok c)) _ hlt socket
          (.answer file _ _ _) hsound (fun q' hq' => nomatch hq') (fun s' peer hn hp => ?_)
          fun x hx => Or.inr ?_
        · cases hp
          exact .accepted file l .allocate c s.protocol
        · exact ⟨_, _, rfl, rfl, hx⟩
    | listening | connecting | reading | readingFrom | writing | claiming | sending
    | receiving => cases hq

theorem owns_located (hr : Registered p) (he : e.given? = none) (network : Network) (dials : Bool)
    (a : SockAddr) : TurnOwns e p (p.located network dials a) := by
  unfold Process.located
  split
  · unfold Process.dialAddress
    split
    · exact .fail he _
    · rename_i s hs
      have hunbound := create_unbound hs
      have hopens : ProcessMove e p [] [] (p.allocate (.socket s)).2 := by
        have hopens := ProcessMove.opens (p := p) (.socket s) (.unbound e hunbound)
        rwa [resource?_of_unbound hunbound] at hopens
      obtain ⟨⟨given, hmoves, hgiven⟩, hasks, hasked⟩ := owns_startOnSocket (hr.move hopens) he _
        (.dialed (p.allocate (.socket s)).1) (.connect a) (by simp [SocketCall.accepts])
      refine ⟨⟨given, .cons hopens hmoves, hgiven⟩, hasks, fun file q next hq => ?_⟩
      obtain ⟨s', event, hs', hasked⟩ := hasked file q next hq
      refine ⟨s', event, ?_, hasked⟩
      rcases hs' with hfile | hfree
      · have hbefore := (p.store.file_add (.socket s) file).symm.trans hfile
        split at hbefore
        · rename_i hnew
          cases hbefore
          exact Or.inr ⟨Nat.le_of_eq hnew.symm, hunbound⟩
        · exact Or.inl hbefore
      · exact Or.inr ⟨Nat.le_of_succ_le hfree.1, hfree.2⟩
  · exact .keeps he rfl rfl (fun _ => rfl) rfl ⟨_, rfl⟩

theorem owns_startLocate (hr : Registered p) (he : e.given? = none) (network address : String)
    (dials : Bool) : TurnOwns e p (p.startLocate network address dials) := by
  unfold Process.startLocate
  split
  · exact .fail he _
  · unfold Process.locate
    split
    · exact .fail he _
    · split
      · exact owns_located hr he _ dials _
      · exact .fail he _
    · exact owns_located hr he _ dials _
    · -- a name is asked for
      refine ⟨⟨[], .nil p, fun x hx => by rw [he] at hx; cases hx⟩, fun q hq => ?_,
        fun file q next hq => by cases hq⟩
      cases hq
      exact ⟨trivial, fun x hx => nomatch hx⟩

/-- A call on a file that is no socket ends at once and closes nothing, and leaves it none. -/
structure Plain (id : Nat) (t : FileStore.Step) : Prop where
  file : (t.state.file id).socket? = none
  closed : closings t.effects = []
  ends : ∃ r, t.progress = .done r

theorem Plain.done {id : Nat} {fs : FileStore} (hf : (fs.file id).socket? = none)
    (r : Except CallError Reply) : Plain id (.result fs r) :=
  ⟨hf, rfl, _, rfl⟩

theorem Plain.set {id : Nat} {f : OpenFile} (fs : FileStore) (hf : f.socket? = none)
    (r : Except CallError Reply) : Plain id (.result (fs.set id f) r) := by
  refine .done ?_ r
  rw [FileStore.file_set, if_pos rfl, hf]

theorem Plain.setBytes {id : Nat} {fs : FileStore} {r : Except CallError Reply}
    (h : Plain id (.result fs r)) (content : Nat) (bytes : Bytes) (r' : Except CallError Reply) :
    Plain id (.result (fs.setBytes content bytes) r') := ⟨h.file, rfl, _, rfl⟩

theorem plain_startTemp {fs : FileStore} {id : Nat} (hf : (fs.file id).socket? = none)
    (h : TempHandle) (c : FileCall) : Plain id (fs.startTemp id h c) := by
  cases c with
  | stat | readAt => exact .done hf _
  | read size =>
    simp only [FileStore.startTemp]
    split
    · exact .set fs rfl _
    · exact .done hf _
  | write data source =>
    simp only [FileStore.startTemp]
    split
    · exact (Plain.set fs rfl (.ok .done)).setBytes _ _ _
    · exact .set fs rfl _
  | seek target =>
    simp only [FileStore.startTemp]
    split
    · exact .set fs rfl _
    · exact .done hf _
  | writeAt data offset =>
    simp only [FileStore.startTemp]
    split
    · exact (Plain.done hf (.ok .done)).setBytes _ _ _
    · exact .done hf _
  | close => exact .set fs rfl _

theorem plain_start {fs : FileStore} {id : Nat} (hf : (fs.file id).socket? = none) (c : FileCall) :
    Plain id (fs.start id c) := by
  rw [FileStore.start]
  cases hfile : fs.file id with
  | socket s =>
    rw [hfile] at hf
    cases hf
  | console sink =>
    cases c with
    | write data source =>
      refine ⟨hf, closings_eq_nil fun x hx => ?_, _, rfl⟩
      obtain ⟨r, -, hr⟩ := List.mem_map.1 hx
      cases hr
    | stat | read | seek | readAt | writeAt | close => exact .done hf _
  | random g =>
    cases c with
    | read | readAt => exact .set fs rfl _
    | stat | write | seek | writeAt | close => exact .done hf _
  | fixed bytes cursor =>
    cases c with
    | read => exact .set fs rfl _
    | seek target =>
      simp only [FileStore.startFixed]
      split
      · exact .set fs rfl _
      · exact .done hf _
    | stat | write | readAt | writeAt | close => exact .done hf _
  | temp h => exact plain_startTemp hf h c
  | unsupported => cases c <;> exact .done hf _

theorem socketTurn_nothing (p : Process) (file : Nat)
    (t : Turn FileStore SocketReply SocketPending) :
    (t.map (·) FileStore.plainReply (·)).map p.ofStore (·) (.onSocket file · .nothing) =
      p.socketTurn file .nothing t := by
  obtain ⟨state, effects, progress⟩ := t
  cases progress with
  | pending q => rfl
  | done result =>
    cases result <;>
      simp [socketTurn, finish, Turn.map, Progress.map, Except.map]

theorem owns_startOnFile (hr : Registered p) (he : e.given? = none) (fd : Nat) (c : FileCall) :
    TurnOwns e p (p.startOnFile fd c) := by
  unfold Process.startOnFile
  cases hfd : p.table.lookup fd with
  | error err => exact .fail he err
  | ok file =>
    dsimp only
    cases hfile : p.store.file file with
    | socket s =>
      have hcall (call : SocketCall) (hc : call.accepts = false) : TurnOwns e p
          (((p.store.startSocket file s call).map (·) FileStore.plainReply (·)).map p.ofStore (·)
            (.onSocket file · .nothing)) := by
        rw [socketTurn_nothing]
        refine owns_socketTurn hr (.call call) .nothing (hr.lt_of_lookup hfd) hfile
          (.call e file call) (s.sound_start call) (fun q hq => ?_) (fun s' peer hn => nomatch hn)
          fun x hx => by rw [he] at hx; cases hx
        obtain ⟨haccepts, hown⟩ := s.asksOwn_start call q hq
        exact ⟨by simp [haccepts, hc], hown⟩
      simp only [FileStore.start, hfile]
      cases c with
      | read size => exact hcall (.read size) rfl
      | write data source => exact hcall (.write data) rfl
      | close => exact hcall .close rfl
      | stat | seek | readAt | writeAt =>
        exact .keeps he rfl rfl (fun _ => rfl) rfl ⟨_, rfl⟩
    | console | random | fixed | temp | unsupported =>
      have hs : (p.store.file file).socket? = none := congrArg OpenFile.socket? hfile
      obtain ⟨hplain, hclosed, r, hdone⟩ := plain_start hs c
      have hmove := ProcessMove.changes (e := e) hs (FileStore.touches_start c) hplain
      rw [← hclosed] at hmove
      exact .ends (.single hmove) he ⟨_, congrArg (Progress.map _ _) hdone⟩

/-- What is opened by its path is no socket. -/
theorem plain_open {t t' : FileSystem} {store store' : FileStore} {path tmpDir : String}
    {flags : OpenFlags} {f : OpenFile}
    (h : t.open_ store path flags tmpDir = .ok (f, t', store')) :
    f.socket? = none ∧ ∀ g, store'.file g = store.file g := by
  have hopens := opensFile h
  refine ⟨?_, fun g => ?_⟩
  · cases hopens.openable <;> rfl
  · rw [FileStore.file, hopens.files, FileStore.file]

theorem owns_startOpen (he : e.given? = none) (path : String)
    (flags : OpenFlags) : TurnOwns e p (p.startOpen path flags) := by
  unfold Process.startOpen
  split
  · exact .fail he _
  · rename_i file tree store hopen
    obtain ⟨hplain, hsame⟩ := plain_open hopen
    have hkeeps : ProcessMove e p [] [] { p with tree, store } :=
      .keeps rfl (opensFile hopen).nextFile hsame
    exact .ends (.cons hkeeps (.single (.opens file (.plain e hplain)))) he ⟨_, rfl⟩

theorem owns_onTree (he : e.given? = none) (r : Except CallError FileSystem) :
    TurnOwns e p (p.onTree r) := by
  cases r with
  | ok tree => exact .keeps he rfl rfl (fun _ => rfl) rfl ⟨_, rfl⟩
  | error err => exact .fail he err

theorem owns_start (hr : Registered p) (he : e.given? = none) (c : Syscall) :
    TurnOwns e p (p.start c) := by
  cases c with
  | open_ path flags => exact owns_startOpen he path flags
  | close fd =>
    simp only [Process.start, Process.startClose, Process.release]
    cases hrelease : p.table.release fd with
    | error err => exact .fail he err
    | ok found => exact .ends (.single (move_release hr hrelease)) he ⟨_, rfl⟩
  | onFile fd c => exact owns_startOnFile hr he fd c
  | dup fd =>
    simp only [Process.start]
    split
    · next hok =>
      have hmove := ProcessMove.drops (e := e) (hr.accounted.dup hok)
        (DescriptorTable.dup_drops hok)
      exact .ends (.single hmove) he ⟨_, rfl⟩
    · exact .fail he _
  | dup2 fd target =>
    simp only [Process.start, Process.startDup2]
    split
    · exact .fail he _
    · next hok =>
      have hmove := ProcessMove.drops (e := e) (hr.accounted.dup2 hok)
        (DescriptorTable.dup2_drops hok)
      exact .ends (.single hmove) he ⟨_, rfl⟩
  | mkdir | rmdir | unlink => exact owns_onTree he _
  | setenv key value =>
    simp only [Process.start, startSetenv]
    split
    · exact .fail he _
    · exact .keeps he rfl rfl (fun _ => rfl) rfl ⟨_, rfl⟩
  | getenv key =>
    refine .keeps he rfl rfl (fun _ => rfl) (closings_eq_nil fun x hx => ?_) ⟨_, rfl⟩
    obtain ⟨n, -, hn⟩ := List.mem_map.1 hx
    cases hn
  | socket domain type protocol =>
    simp only [Process.start, startSocket]
    split
    · exact .fail he _
    · rename_i s hs
      have hmove := ProcessMove.opens (p := p) (.socket s) (.unbound e (create_unbound hs))
      exact .ends (.single hmove) he ⟨_, rfl⟩
  | onSocket fd c =>
    cases c <;> exact owns_startOnSocket hr he fd _ _ (by simp [SocketCall.accepts])
  | resolve network address => exact owns_startLocate hr he network address false
  | dial network address => exact owns_startLocate hr he network address true
  | symlink | unsetenv | fsync | stat | readlink | environ | getpid | missing =>
    exact .keeps he rfl rfl (fun _ => rfl) rfl ⟨_, rfl⟩

theorem owns_resume (hr : Registered p) {q : ProcessPending} (hfits : p.Fits q)
    (a : Except HostFailure q.request.Answer) : TurnOwns (.answer q a) p (p.resume q a) := by
  cases q with
  | onSocket file q next => exact owns_resumeOnSocket hr hfits a
  | resolving network name port dials =>
    have he : (ProcessEvent.answer (.resolving network name port dials) a).given? = none := by
      cases a <;> rfl
    cases a with
    | error f => exact .fail he _
    | ok found =>
      simp only [Process.resume]
      split
      · exact .fail he _
      · exact owns_located hr he network dials _

theorem owns_turn (hr : Registered p) (hfits : ∀ q a, e = .answer q a → p.Fits q) :
    TurnOwns e p (p.turn e) := by
  cases e with
  | call c => exact owns_start hr rfl c
  | answer q a => exact owns_resume hr (hfits q a rfl) a

/-- A process is created with files that are no sockets. -/
theorem moves_create (s : Settings) : ∃ blank : Process, (∀ f, blank.store.file f = .unsupported) ∧
    Registered blank ∧ ProcessMoves (.call .environ) blank [] [] (create s) := by
  obtain ⟨blank, hstore, htable, -, hcreate⟩ := create_eq s
  refine ⟨blank, fun f => by rw [hstore]; rfl, registered_blank htable, ?_⟩
  have hplain {p : Process} {f : OpenFile} (hf : f.socket? = none) :
      ProcessMove (.call .environ) p [] [] (p.allocate f).2 := by
    have hmove := ProcessMove.opens (p := p) f (.plain (.call .environ) hf)
    rwa [OpenFile.resource?, hf] at hmove
  rw [hcreate]
  exact .cons (hplain rfl) (.cons (hplain rfl) (.single (hplain rfl)))

theorem sealed_create (s : Settings) : Sealed (create s) := by
  obtain ⟨blank, hfiles, hregistered, hmoves⟩ := moves_create s
  have hsealed : Sealed blank := fun f s hf => by
    rw [hfiles] at hf
    cases hf
  exact (hsealed.moves hregistered hmoves).1

theorem not_installed_create (s : Settings) {y : Endpoint} (hx : y.resource? = some x) :
    ¬ (create s).Installed y := by
  intro hy
  obtain ⟨blank, hfiles, -, hmoves⟩ := moves_create s
  rcases hy.moves hmoves hx with ⟨f, s, hf, -⟩ | hgives
  · rw [hfiles] at hf
    cases hf
  · cases hgives

end SyscallBridge.Process
