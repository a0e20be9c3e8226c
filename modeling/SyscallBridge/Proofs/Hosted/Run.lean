import Mathlib.Data.List.Perm.Basic
import SyscallBridge.Proofs.Host.Run
import SyscallBridge.Proofs.Process.SocketTurns

/-!
# A process on a host

One process makes system calls on one host. A call that has to wait is in flight, first without an
answer and then with one, and anything may happen before it goes on: other calls begin and go on,
the host answers them or fails them, and what nothing refers to is dropped. Others may use the host
too.
-/

namespace SyscallBridge

/-- A call that waits for the host, or has an answer that it has not gone on with. -/
structure InFlight where
  pending : ProcessPending
  answer : Option (Except HostFailure pending.request.Answer) := none

/-- The resource that has been given to a call in flight. -/
def InFlight.given? : InFlight → Option Resource
  | ⟨q, some a⟩ => ProcessEvent.given? (.answer q a)
  | ⟨_, none⟩ => none

structure Hosted where
  process : Process
  host : InProcessHost := {}
  calls : List InFlight := []

inductive HostedEvent where
  | call (c : Syscall)
  /-- The host answers a call in flight, if there is an answer yet. -/
  | serve (i : Nat)
  | fail (i : Nat) (f : HostFailure)
  /-- A call goes on with its answer. -/
  | resume (i : Nat)
  /-- What nothing refers to any more is dropped. -/
  | collect
  /-- Somebody else uses the host. -/
  | elsewhere (a : HostAct)

/-- What an effect does to the host. -/
def Effect.act? : Effect → Option HostAct
  | .log r => some (.log r)
  | .close x => some (.close x)
  | .notice _ => none

/-- The call that a turn leaves waiting. -/
def Process.Step.asked (t : Process.Step) : List InFlight :=
  match t.progress with
  | .pending q => [⟨q, none⟩]
  | .done _ => []

theorem Process.Step.mem_asked {t : Process.Step} {c : InFlight} (hc : c ∈ t.asked) :
    ∃ q, t.progress = .pending q ∧ c = ⟨q, none⟩ := by
  unfold Process.Step.asked at hc
  split at hc
  · rename_i q hq
    exact ⟨q, hq, List.mem_singleton.1 hc⟩
  · cases hc

/-- The end of a turn, if the call is over. -/
def Process.Step.result? (t : Process.Step) : Option (Except CallError Reply) :=
  match t.progress with
  | .pending _ => none
  | .done result => some result

theorem Process.Step.result?_eq_some {t : Process.Step} {result : Except CallError Reply} :
    Process.Step.result? t = some result ↔ t.progress = .done result := by
  unfold Process.Step.result?
  cases t.progress <;> simp

namespace Hosted

def create (settings : Settings) : Hosted := { process := .create settings }

/-- The host resources that the process and its calls in flight refer to. -/
def roots (s : Hosted) : List Resource :=
  s.process.resources (s.calls.filterMap fun c => c.pending.file?) ++
    s.calls.filterMap (fun c => c.pending.request.resource?) ++ s.calls.filterMap InFlight.given?

def collect (s : Hosted) : Hosted := { s with host := s.host.retain s.roots }

/-- A turn of the process, with the calls that are in flight beside it. -/
def turned (s : Hosted) (e : ProcessEvent) (others : List InFlight) : Hosted :=
  let t := s.process.turn e
  { process := t.state
    host := s.host.acts (t.effects.filterMap Effect.act?)
    calls := others ++ Process.Step.asked t }

def next (s : Hosted) : HostedEvent → Hosted
  | .call c => s.turned (.call c) s.calls
  | .serve i =>
    match s.calls[i]? with
    | some ⟨q, none⟩ =>
      match s.host.poll? q.request with
      | some (a, host) => { s with host, calls := s.calls.set i ⟨q, some a⟩ }
      | none => s
    | _ => s
  | .fail i f =>
    match s.calls[i]? with
    | some ⟨q, none⟩ => { s with calls := s.calls.set i ⟨q, some (.error f)⟩ }
    | _ => s
  | .resume i =>
    match s.calls[i]? with
    | some ⟨q, some a⟩ => s.turned (.answer q a) (s.calls.eraseIdx i)
    | _ => s
  | .collect => s.collect
  | .elsewhere a => { s with host := s.host.act a }

def run (s : Hosted) (events : List HostedEvent) : Hosted := events.foldl next s

/-- The result of the call that is over with an event. -/
def result? (s : Hosted) : HostedEvent → Option (Except CallError Reply)
  | .call c => Process.Step.result? (s.process.turn (.call c))
  | .resume i =>
    match s.calls[i]? with
    | some ⟨q, some a⟩ => Process.Step.result? (s.process.turn (.answer q a))
    | _ => none
  | _ => none

/-- The results of the calls, in the order in which they are over. -/
def results (s : Hosted) : List HostedEvent → List (Except CallError Reply)
  | [] => []
  | e :: rest => (s.result? e).toList ++ (s.next e).results rest

/-! ### Steps -/

/-- What an event may come to; the calls in flight are told of up to their order. -/
inductive Goes (s : Hosted) : HostedEvent → Hosted → Prop
  | rests (event : HostedEvent) : Goes s event s
  | turns (event : HostedEvent) {e : ProcessEvent} {others : List InFlight}
    (resumed : (∃ c, e = .call c ∧ others = s.calls) ∨
      ∃ q a, e = .answer q a ∧ s.calls.Perm (⟨q, some a⟩ :: others)) :
    Goes s event (s.turned e others)
  | served (event : HostedEvent) {q : ProcessPending} {a : Except HostFailure q.request.Answer}
    {host : InProcessHost} {others calls : List InFlight}
    (waited : s.calls.Perm (⟨q, none⟩ :: others)) (answered : calls.Perm (⟨q, some a⟩ :: others))
    (served : s.host.poll? q.request = some (a, host)) : Goes s event { s with host, calls }
  | failed (event : HostedEvent) {q : ProcessPending} {f : HostFailure}
    {others calls : List InFlight} (waited : s.calls.Perm (⟨q, none⟩ :: others))
    (answered : calls.Perm (⟨q, some (.error f)⟩ :: others)) : Goes s event { s with calls }
  | collects (event : HostedEvent) : Goes s event s.collect
  | elsewhere (a : HostAct) : Goes s (.elsewhere a) { s with host := s.host.act a }

theorem perm_of_getElem? {l : List InFlight} {i : Nat} {c : InFlight} (hi : l[i]? = some c) :
    l.Perm (c :: l.eraseIdx i) ∧ ∀ c', (l.set i c').Perm (c' :: l.eraseIdx i) := by
  obtain ⟨hlt, rfl⟩ := List.getElem?_eq_some_iff.1 hi
  exact ⟨(List.getElem_cons_eraseIdx_perm hlt).symm, List.set_perm_cons_eraseIdx hlt⟩

theorem goes_next (s : Hosted) (event : HostedEvent) : s.Goes event (s.next event) := by
  cases event with
  | call c => exact .turns _ (Or.inl ⟨c, rfl, rfl⟩)
  | serve i =>
    simp only [next]
    split
    · rename_i q hi
      obtain ⟨hwaited, hset⟩ := perm_of_getElem? hi
      split
      · rename_i a host hp
        exact .served _ hwaited (hset _) hp
      · exact .rests _
    · exact .rests _
  | fail i f =>
    simp only [next]
    split
    · rename_i q hi
      obtain ⟨hwaited, hset⟩ := perm_of_getElem? hi
      exact .failed _ hwaited (hset _)
    · exact .rests _
  | resume i =>
    simp only [next]
    split
    · rename_i q a hi
      exact .turns _ (Or.inr ⟨q, a, rfl, (perm_of_getElem? hi).1⟩)
    · exact .rests _
  | collect => exact .collects _
  | elsewhere a => exact .elsewhere a

section Answered

variable {q : ProcessPending} {a : Except HostFailure q.request.Answer}
  {before after others : List InFlight} {c : InFlight} {x : Resource}

theorem mem_before (waited : before.Perm (⟨q, none⟩ :: others))
    (answered : after.Perm (⟨q, some a⟩ :: others)) (hc : c ∈ after) :
    c = ⟨q, some a⟩ ∨ c ∈ before :=
  (List.mem_cons.1 (answered.mem_iff.1 hc)).imp id fun hold =>
    waited.mem_iff.2 (List.mem_cons_of_mem _ hold)

theorem pending_before (waited : before.Perm (⟨q, none⟩ :: others))
    (answered : after.Perm (⟨q, some a⟩ :: others)) (hc : c ∈ after) :
    ∃ c' ∈ before, c'.pending = c.pending := by
  rcases mem_before waited answered hc with rfl | hold
  · exact ⟨⟨q, none⟩, waited.mem_iff.2 List.mem_cons_self, rfl⟩
  · exact ⟨c, hold, rfl⟩

theorem given_after (waited : before.Perm (⟨q, none⟩ :: others))
    (answered : after.Perm (⟨q, some a⟩ :: others)) (hc : c ∈ before) (hx : c.given? = some x) :
    c ∈ after := by
  rcases List.mem_cons.1 (waited.mem_iff.1 hc) with rfl | hc
  · cases hx
  · exact answered.mem_iff.2 (List.mem_cons_of_mem _ hc)

end Answered

/-! ### The host under a run -/

/-- What is dropped as nothing refers to it. -/
def unreachable (s : Hosted) : List Resource :=
  s.host.resources.filter fun x => !(s.host.reachable s.roots).contains x

/-- What an event does to the host. -/
def hostActs (s : Hosted) : HostedEvent → List HostAct
  | .call c => (s.process.turn (.call c)).effects.filterMap Effect.act?
  | .serve i =>
    match s.calls[i]? with
    | some ⟨q, none⟩ => [.request q.request]
    | _ => []
  | .fail .. => []
  | .resume i =>
    match s.calls[i]? with
    | some ⟨q, some a⟩ => (s.process.turn (.answer q a)).effects.filterMap Effect.act?
    | _ => []
  | .collect => s.unreachable.map .drop
  | .elsewhere a => [a]

/-- All that is done to the host in the course of some events. -/
def trace (s : Hosted) : List HostedEvent → List HostAct
  | [] => []
  | e :: rest => s.hostActs e ++ (s.next e).trace rest

theorem host_collect (s : Hosted) : s.collect.host = s.host.acts (s.unreachable.map .drop) := by
  have hretain : s.host.retain s.roots = s.unreachable.foldl InProcessHost.drop s.host := rfl
  rw [collect, hretain, InProcessHost.acts, List.foldl_map]
  rfl

theorem host_next (s : Hosted) (e : HostedEvent) :
    (s.next e).host = s.host.acts (s.hostActs e) := by
  cases e with
  | call c => rfl
  | serve i =>
    simp only [next, hostActs]
    split
    · rename_i q hi
      change _ = s.host.act (.request q.request)
      split
      · rename_i hp
        exact (InProcessHost.act_request hp).symm
      · rename_i hp
        exact (InProcessHost.act_request_of_none hp).symm
    · rfl
  | fail i f =>
    simp only [next]
    split <;> rfl
  | resume i =>
    simp only [next, hostActs]
    split <;> rfl
  | collect => exact host_collect s
  | elsewhere a => rfl

theorem host_run (s : Hosted) (events : List HostedEvent) :
    (s.run events).host = s.host.acts (s.trace events) := by
  induction events generalizing s with
  | nil => rfl
  | cons e events ih =>
    change ((s.next e).run events).host = _
    rw [ih, host_next, trace, InProcessHost.acts, InProcessHost.acts, ← List.foldl_append]
    rfl

theorem trace_concat (s : Hosted) (events : List HostedEvent) (e : HostedEvent) :
    s.trace (events ++ [e]) = s.trace events ++ (s.run events).hostActs e := by
  induction events generalizing s with
  | nil => exact List.append_nil _
  | cons first events ih =>
    change s.hostActs first ++ (s.next first).trace (events ++ [e]) = _
    rw [ih, ← List.append_assoc]
    rfl

/-! ### The process under a run -/

/-- The process is in order, and the calls in flight fit it. -/
structure Sound (s : Hosted) : Prop where
  registered : s.process.Registered
  seals : s.process.Sealed
  fits : ∀ c ∈ s.calls, s.process.Fits c.pending

variable {s : Hosted} {e : ProcessEvent} {others : List InFlight}

theorem sound_create (settings : Settings) : (create settings).Sound where
  registered := Process.registered_create settings
  seals := Process.sealed_create settings
  fits := fun _ hc => nomatch hc

theorem Sound.turn (hs : s.Sound) (resumed : (∃ c, e = .call c ∧ others = s.calls) ∨
    ∃ q a, e = .answer q a ∧ s.calls.Perm (⟨q, some a⟩ :: others)) :
    Process.TurnOwns e s.process (s.process.turn e) ∧ ∀ c ∈ others, c ∈ s.calls := by
  rcases resumed with ⟨c, rfl, rfl⟩ | ⟨q, a, rfl, hperm⟩
  · exact ⟨Process.owns_turn hs.registered (fun q a h => nomatch h), fun c hc => hc⟩
  · refine ⟨Process.owns_turn hs.registered fun q' a' h => ?_,
      fun c hc => hperm.mem_iff.2 (List.mem_cons_of_mem _ hc)⟩
    cases h
    exact hs.fits _ (hperm.mem_iff.2 List.mem_cons_self)

theorem Sound.answered {q : ProcessPending} {a : Except HostFailure q.request.Answer}
    {host : InProcessHost} {calls : List InFlight} (hs : s.Sound)
    (waited : s.calls.Perm (⟨q, none⟩ :: others))
    (answered : calls.Perm (⟨q, some a⟩ :: others)) : Sound { s with host, calls } := by
  refine ⟨hs.registered, hs.seals, fun c hc => ?_⟩
  obtain ⟨c', hc', hsame⟩ := pending_before waited answered hc
  exact hsame ▸ hs.fits c' hc'

theorem Sound.next (hs : s.Sound) (event : HostedEvent) : (s.next event).Sound := by
  have hgoes := goes_next s event
  generalize s.next event = s' at hgoes
  cases hgoes with
  | turns _ resumed =>
    obtain ⟨⟨⟨given, hmoves, -⟩, hasks⟩, hothers⟩ := hs.turn resumed
    obtain ⟨hsealed, hregistered⟩ := hs.seals.moves hs.registered hmoves
    refine ⟨hregistered, hsealed, fun c hc => ?_⟩
    rcases List.mem_append.1 hc with hold | hnew
    · exact (hs.fits c (hothers c hold)).moves hmoves
    · obtain ⟨q, hq, rfl⟩ := Process.Step.mem_asked hnew
      exact (hasks q hq).1
  | served _ waited answered served => exact hs.answered waited answered
  | failed _ waited answered => exact hs.answered waited answered
  | rests | collects | elsewhere => exact ⟨hs.registered, hs.seals, hs.fits⟩

theorem Sound.run (hs : s.Sound) (events : List HostedEvent) : (s.run events).Sound := by
  induction events generalizing s with
  | nil => exact hs
  | cons event events ih => exact ih (hs.next event)

end Hosted

end SyscallBridge
