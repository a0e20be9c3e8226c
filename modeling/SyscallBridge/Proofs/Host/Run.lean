import SyscallBridge.Proofs.Host.Served

/-!
# Runs of a host

Whatever happens to a host is one of a few acts. A request is taken here when its turn has come,
so whether it is refused before that, or has to wait, is for those who make it.
-/

namespace SyscallBridge

inductive HostAct where
  /-- A request whose turn it is; without an answer nothing happens. -/
  | request (r : Request)
  | close (r : Resource)
  | drop (r : Resource)
  | serve (url : String)
  | addName (name : String) (ip : Ip)
  | log (r : LogRecord)
  | takeLogs
  deriving DecidableEq, Repr

namespace InProcessHost

open InProcess

def act (h : InProcessHost) : HostAct → InProcessHost
  | .request r => ((h.poll? r).map Prod.snd).getD h
  | .close r => h.close r
  | .drop r => h.drop r
  | .serve url => (h.serve url).2
  | .addName name ip => h.addName name ip
  | .log r => h.log r
  | .takeLogs => h.takeLogs.2

def acts (h : InProcessHost) (l : List HostAct) : InProcessHost := l.foldl act h

variable {h h' : InProcessHost}

theorem act_request {r : Request} {answer : Except HostFailure r.Answer}
    (hp : h.poll? r = some (answer, h')) : h.act (.request r) = h' := by
  simp only [act, hp, Option.map_some, Option.getD_some]

theorem act_request_of_none {r : Request} (hp : h.poll? r = none) :
    h.act (.request r) = h := by
  simp only [act, hp, Option.map_none, Option.getD_none]

/-- What holds of the host as it is, and of every host that an answer leaves, holds after a
request. -/
theorem act_request_induct {motive : InProcessHost → Prop} (r : Request) (hnone : motive h)
    (hsome : ∀ answer h', h.poll? r = some (answer, h') → motive h') :
    motive (h.act (.request r)) := by
  cases hp : h.poll? r with
  | none =>
    rw [act_request_of_none hp]
    exact hnone
  | some result =>
    rw [act_request hp]
    exact hsome result.1 result.2 hp

/-! ### Drops -/

theorem mem_queued_listener {id : Nat} {y : Resource} : y ∈ h.queued (.listener id) ↔
    ∃ l c, h.listeners.find? id = some l ∧ .connection c ∈ l.queue ∧ y = .stream c.id := by
  simp only [queued]
  cases h.listeners.find? id with
  | none => simp
  | some l =>
    simp only [Option.map_some, Option.getD_some, List.mem_filterMap, Option.some.injEq]
    constructor
    · rintro ⟨arrival, harrival, heq⟩
      cases arrival with
      | connection c => exact ⟨l, c, rfl, harrival, (Option.some.inj heq).symm⟩
      | abort => cases heq
    · rintro ⟨_, c, rfl, hc, rfl⟩
      exact ⟨_, hc, rfl⟩

theorem mem_queued_server {id : Nat} {y : Resource} : y ∈ h.queued (.server id) ↔
    ∃ s c, h.servers.find? id = some s ∧ c ∈ s.queue ∧ y = .channel c.id := by
  simp only [queued]
  cases h.servers.find? id with
  | none => simp
  | some s =>
    simp only [Option.map_some, Option.getD_some, List.mem_map, Option.some.injEq]
    constructor
    · rintro ⟨c, hc, rfl⟩
      exact ⟨s, c, rfl, hc, rfl⟩
    · rintro ⟨_, c, rfl, hc, rfl⟩
      exact ⟨c, hc, rfl⟩

theorem mem_queued {x y : Resource} (hy : y ∈ h.queued x) :
    (∃ l id, x = .listener l ∧ y = .stream id) ∨ ∃ s id, x = .server s ∧ y = .channel id := by
  cases x with
  | listener l =>
    obtain ⟨_, c, -, -, rfl⟩ := mem_queued_listener.1 hy
    exact Or.inl ⟨l, c.id, rfl, rfl⟩
  | server s =>
    obtain ⟨_, c, -, -, rfl⟩ := mem_queued_server.1 hy
    exact Or.inr ⟨s, c.id, rfl, rfl⟩
  | stream | port | channel => cases hy

theorem foldl_discard_induct {motive : InProcessHost → Prop} {l : List Resource} (start : motive h)
    (discards : ∀ y ∈ l, ∀ g, motive g → motive (g.discard y)) : motive (l.foldl discard h) := by
  induction l generalizing h with
  | nil => exact start
  | cons y l ih =>
    exact ih (discards y List.mem_cons_self h start)
      fun z hz => discards z (List.mem_cons_of_mem _ hz)

/-- What holds once the resource is discarded, and is kept when one that stood in its queue is
discarded, holds after a drop. -/
theorem drop_induct {motive : InProcessHost → Prop} (x : Resource) (start : motive (h.discard x))
    (discards : ∀ y ∈ h.queued x, ∀ g, motive g → motive (g.discard y)) : motive (h.drop x) :=
  foldl_discard_induct start discards

end InProcessHost

end SyscallBridge
