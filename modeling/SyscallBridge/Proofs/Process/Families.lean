import SyscallBridge.Proofs.Process.SocketTurns
import SyscallBridge.Proofs.Socket.Families

/-!
# The families of the sockets of a process

A socket keeps its family, and the calls that wait for it work within that family, whatever else
the process does meanwhile. So every socket that a turn leaves is within its family, and a call on a
socket tells addresses of the family of that socket alone.
-/

namespace SyscallBridge

namespace Process

variable {p p' : Process} {e : ProcessEvent} {given closed : List Resource} {f : Nat} {F : Family}
  {h : InProcessHost}

def HasFamily (p : Process) (f : Nat) (F : Family) : Prop :=
  f < p.store.nextFile ∧ ∃ s, p.store.file f = .socket s ∧ s.family = F

theorem HasFamily.moves (hf : p.HasFamily f F) (hm : ProcessMoves e p given closed p') :
    p'.HasFamily f F := by
  induction hm with
  | nil => exact hf
  | cons first rest ih =>
    obtain ⟨hlt, s, hfile, hfamily⟩ := hf
    obtain ⟨hlt', s', hfile', -, hsame⟩ := socket_move first hlt hfile
    exact ih ⟨hlt', s', hfile', hsame.trans hfamily⟩

/-- Every socket has been given a number, and is within its family. -/
def InFamilies (p : Process) (h : InProcessHost) : Prop :=
  ∀ f s, p.store.file f = .socket s → f < p.store.nextFile ∧ s.endpoint.Within s.family h

theorem InFamilies.act (hp : p.InFamilies h) (a : HostAct) : p.InFamilies (h.act a) :=
  fun f s hf => ⟨(hp f s hf).1, (hp f s hf).2.act a⟩

theorem InFamilies.hasFamily (hp : p.InFamilies h) {s : Socket} (hf : p.store.file f = .socket s) :
    p.HasFamily f s.family := ⟨(hp f s hf).1, s, hf, rfl⟩

end Process

namespace ProcessPending

variable {p p' : Process} {e : ProcessEvent} {given closed : List Resource} {h : InProcessHost}

/-- A waiting call, with its answer if it has one, is within the family of its socket. -/
def Within (p : Process) (h : InProcessHost) :
    (q : ProcessPending) → Option (Except HostFailure q.request.Answer) → Prop
  | .onSocket file q _, answer => ∃ F, p.HasFamily file F ∧ q.Within F h ∧
    ∀ x, answer = some (.ok x) → q.Brings F h x
  | .resolving .., _ => True

theorem Within.moves {q : ProcessPending} {answer : Option (Except HostFailure q.request.Answer)}
    (hq : q.Within p h answer) (hm : ProcessMoves e p given closed p') :
    q.Within p' h answer := by
  cases q with
  | resolving => trivial
  | onSocket file q next =>
    obtain ⟨F, hfile, hrest⟩ := hq
    exact ⟨F, hfile.moves hm, hrest⟩

theorem Within.act {q : ProcessPending} {answer : Option (Except HostFailure q.request.Answer)}
    (hq : q.Within p h answer) (a : HostAct) : q.Within p (h.act a) answer := by
  cases q with
  | resolving => trivial
  | onSocket file q next =>
    obtain ⟨F, hfile, hwithin, hanswer⟩ := hq
    exact ⟨F, hfile, hwithin.act a, fun x hx => (hanswer x hx).act a⟩

/-- What a waiting call dials or sends stays within one family. -/
theorem Within.keeps {q : ProcessPending} {answer : Option (Except HostFailure q.request.Answer)}
    (hq : q.Within p h answer) : h.Keeps (.request q.request) := by
  cases q with
  | resolving => exact ⟨(fun _ _ _ hdial => nomatch hdial), fun _ hd => nomatch hd⟩
  | onSocket file q next =>
    obtain ⟨F, -, hwithin, -⟩ := hq
    exact hwithin.keeps

end ProcessPending

/-- What a turn goes on with is within the family of its socket. -/
def ProcessEvent.Within (p : Process) (h : InProcessHost) : ProcessEvent → Prop
  | .call _ => True
  | .answer q a => q.Within p h (some a)

namespace Process

variable {p p' : Process} {e : ProcessEvent} {given closed : List Resource} {file : Nat}
  {next : Afterwards} {h : InProcessHost}

theorem within_runs {event : SocketEvent} {s : Socket} (he : e.Within p h)
    (runs : e.Runs file event) (socket : p.store.file file = .socket s) :
    event.Within s.family h := by
  cases runs with
  | call => trivial
  | answer file q next a =>
    obtain ⟨F, ⟨-, s', hfile, rfl⟩, hq, hx⟩ := he
    cases socket.symm.trans hfile
    exact ⟨hq, fun x ha => hx x (congrArg some ha)⟩

/-! ### Moves -/

theorem InFamilies.move (hp : p.InFamilies h) (he : e.Within p h)
    (hm : ProcessMove e p given closed p') : p'.InFamilies h := by
  intro f s hf
  cases hm with
  | keeps table nextFile files =>
    rw [nextFile]
    exact hp f s ((files f).symm.trans hf)
  | opens new origin =>
    have hf := (p.store.file_add new f).symm.trans hf
    split at hf
    · rename_i hnew
      subst hf
      refine ⟨Nat.lt_succ_of_le (Nat.le_of_eq hnew), ?_⟩
      cases origin with
      | plain _ hplain => cases hplain
      | unbound _ hs =>
        rw [hs]
        trivial
      | accepted file l next c protocol =>
        obtain ⟨F, -, -, hx⟩ := he
        have hc : c.Within F h := hx c rfl
        obtain rfl := hc.peer
        exact ⟨hc, rfl⟩
    · obtain ⟨hlt, hwithin⟩ := hp f s hf
      exact ⟨Nat.lt_succ_of_lt hlt, hwithin⟩
  | @turns file before event socket runs sound =>
    have hf := (p.store.file_set file (.socket (event.turn before).state) f).symm.trans hf
    split at hf
    · rename_i heq
      cases hf
      obtain ⟨hlt, hbefore⟩ := hp file before socket
      have hturn := Socket.within_turn hbefore (within_runs he runs socket)
      rw [sound.same_family]
      exact ⟨heq ▸ hlt, hturn.endpoint⟩
    · exact hp f s hf
  | @changes file store plain touches still =>
    obtain ⟨hlt, hwithin⟩ := hp f s ((touches.socket_iff plain still).1 hf)
    exact ⟨touches.nextFile ▸ hlt, hwithin⟩
  | @drops table shut accounted drops =>
    cases shut with
    | none => exact hp f s hf
    | some g =>
      obtain ⟨s', hbefore⟩ := FileStore.exists_socket_of_close hf
      refine ⟨(FileStore.touches_close p.store g).nextFile.symm ▸ (hp f s' hbefore).1, ?_⟩
      rcases FileStore.socket_of_close hf with ⟨hf, -⟩ | hclosed
      · exact (hp f s hf).2
      · rw [hclosed]
        trivial

theorem InFamilies.moves (hp : p.InFamilies h) (he : e.Within p h)
    (hm : ProcessMoves e p given closed p') : p'.InFamilies h := by
  induction hm with
  | nil => exact hp
  | cons first rest ih =>
    refine ih (hp.move he first) ?_
    cases e with
    | call c => trivial
    | answer q a => exact ProcessPending.Within.moves he (.single first)

/-! ### Turns -/

theorem inFamilies_create (settings : Settings) : (create settings).InFamilies h := by
  obtain ⟨blank, hfiles, -, hmoves⟩ := moves_create settings
  have hblank : blank.InFamilies h := fun f s hf => by
    rw [hfiles] at hf
    cases hf
  have hcall : (ProcessEvent.call .environ).Within blank h := trivial
  exact hblank.moves hcall hmoves

/-- A call that a turn leaves waiting is within the family of its socket. -/
theorem TurnOwns.pending_within {t : Step} (ho : TurnOwns e p t) (hp : p.InFamilies h)
    (he : e.Within p h) {q : ProcessPending} (hq : t.progress = .pending q) :
    q.Within t.state h none := by
  cases q with
  | resolving => trivial
  | onSocket file q next =>
    obtain ⟨⟨hlt, -⟩, -⟩ := ho.asks _ hq
    obtain ⟨s, event, hs, runs, sound, hasks, hafter⟩ := ho.asked file q next hq
    refine ⟨s.family, ⟨hlt, _, hafter, sound.same_family⟩, ?_, fun x hx => nomatch hx⟩
    rcases hs with socket | ⟨hnew, hunbound⟩
    · have hturn := Socket.within_turn (hp file s socket).2 (within_runs he runs socket)
      exact hturn.asks q hasks
    · have hs : s.endpoint.Within s.family h := hunbound ▸ trivial
      cases runs with
      | call e file c => exact (Socket.within_start hs c).asks q hasks
      | answer file q' next' a =>
        -- a call that waited before has an older file
        obtain ⟨F, ⟨hold, -⟩, -⟩ := he
        exact absurd hold (Nat.not_lt.2 hnew)

/-- What the end of a turn tells is of the family, and what it opens is a socket of the family. -/
structure TellsIn (F : Family) (t : Step) : Prop where
  told : ∀ r a, t.progress = .done (.ok r) → r.told? = some a → a.family = F
  opened : ∀ fd a, t.progress = .done (.ok (.accepted fd a)) → ∃ f s,
    t.state.table.lookup fd = .ok f ∧ t.state.store.file f = .socket s ∧ s.family = F

namespace TellsIn

variable {F : Family} {t : Step}

theorem unsaid (hok : ∀ r, t.progress ≠ .done (.ok r)) : TellsIn F t where
  told r _ hdone := absurd hdone (hok r)
  opened _ _ hdone := absurd hdone (hok _)

theorem of_plain {r : Reply} (hdone : t.progress = .done (.ok r))
    (hr : (SocketReply.plain r).Within F) : TellsIn F t where
  told r' a hr' htold := by
    cases hdone.symm.trans hr'
    exact hr.1 a htold
  opened fd a hr' := by
    cases hdone.symm.trans hr'
    exact absurd rfl (hr.2 fd a)

end TellsIn

theorem tellsIn_socketTurn (hr : Registered p) {F : Family} {t : Socket.Step}
    (ht : t.Within F h) : TellsIn F (p.socketTurn file next (p.store.socketTurn file t)) := by
  obtain ⟨state, effects, progress⟩ := t
  cases progress with
  | pending q => exact .unsaid fun r hdone => nomatch hdone
  | done result =>
    cases result with
    | error err =>
      refine .unsaid fun r hdone => ?_
      cases next with
      | nothing | allocate => cases hdone
      | dialed fd =>
        rw [socketTurn_error err rfl] at hdone
        cases hdone
    | ok sr =>
      have htells := ht.tells sr rfl
      cases next with
      | dialed fd => exact .of_plain rfl (.silent rfl)
      | nothing =>
        cases sr with
        | plain r => exact .of_plain rfl htells
        | accepted s peer => exact .of_plain rfl (.address htells.1)
      | allocate =>
        cases sr with
        | plain r => exact .of_plain rfl htells
        | accepted s peer =>
          refine ⟨fun r a hdone htold => ?_, fun fd a hdone => ?_⟩
          · cases hdone
            cases htold
            exact htells.1
          · have hset : Registered (p.ofStore (p.store.set file (.socket state))) :=
              hr.ofStore (.set _)
            have hopened := hset.opened (.socket s)
            cases hdone
            exact ⟨_, s, (hopened.lookup _).trans (if_pos rfl), hopened.own, htells.2⟩

/-- A call on a socket fails at once, or it is a turn of the socket that the descriptor has. -/
theorem start_onSocket (p : Process) (fd : Nat) (c : SocketCall) :
    (∃ e, p.start (.onSocket fd c) = .fail p e) ∨
    ∃ f s next, p.table.lookup fd = .ok f ∧ p.store.file f = .socket s ∧
      p.start (.onSocket fd c) = p.socketTurn f next (p.store.socketTurn f (s.start c)) := by
  have hstart : ∃ next, p.start (.onSocket fd c) = p.startOnSocket fd next c := by
    cases c <;> exact ⟨_, rfl⟩
  obtain ⟨next, hstart⟩ := hstart
  rw [hstart, startOnSocket]
  cases hfd : p.table.lookup fd with
  | error e => exact Or.inl ⟨e, rfl⟩
  | ok f =>
    dsimp only
    cases hsocket : (p.store.file f).socket? with
    | none => exact Or.inl ⟨_, rfl⟩
    | some s => exact Or.inr ⟨f, s, next, rfl, OpenFile.eq_socket hsocket, rfl⟩

/-- A call on a socket tells and opens what is of its family alone. -/
theorem InFamilies.tells_start (hp : p.InFamilies h) (hr : Registered p) {fd f : Nat}
    {c : SocketCall} {r : Reply} (hfd : p.table.lookup fd = .ok f)
    (hdone : (p.start (.onSocket fd c)).progress = .done (.ok r)) :
    ∃ s, p.store.file f = .socket s ∧ TellsIn s.family (p.start (.onSocket fd c)) := by
  rcases p.start_onSocket fd c with ⟨e, hfails⟩ | ⟨g, s, next, hg, hf, hturn⟩
  · rw [hfails] at hdone
    cases hdone
  · cases hfd.symm.trans hg
    rw [hturn]
    exact ⟨s, hf, tellsIn_socketTurn hr (Socket.within_start (hp f s hf).2 c)⟩

/-- A call on a socket waits for the file that its descriptor has. -/
theorem file?_of_start {fd : Nat} {c : SocketCall} {q : ProcessPending}
    (hq : (p.start (.onSocket fd c)).progress = .pending q) :
    ∃ f, p.table.lookup fd = .ok f ∧ q.file? = some f := by
  rcases p.start_onSocket fd c with ⟨e, hfails⟩ | ⟨f, s, next, hfd, -, hturn⟩
  · rw [hfails] at hq
    cases hq
  · refine ⟨f, hfd, ?_⟩
    rw [hturn] at hq
    generalize s.start c = t at hq
    obtain ⟨state, effects, progress⟩ := t
    cases progress with
    | pending q' =>
      cases hq
      rfl
    | done result => cases hq

/-- A call that goes on tells and opens what is of the family of its socket alone. -/
theorem InFamilies.tells_resume (hp : p.InFamilies h) (hr : Registered p) {q : SocketPending}
    {answer : Except HostFailure q.request.Answer}
    (hq : (ProcessPending.onSocket file q next).Within p h (some answer)) :
    ∃ s, p.store.file file = .socket s ∧
      TellsIn s.family (p.resume (.onSocket file q next) answer) := by
  obtain ⟨F, ⟨-, s, hf, rfl⟩, hwithin, hx⟩ := hq
  have hresume := Socket.within_resume (hp file s hf).2 hwithin fun x ha => hx x (congrArg some ha)
  rw [resume_onSocket hf]
  exact ⟨s, hf, tellsIn_socketTurn hr hresume⟩

end Process

end SyscallBridge
