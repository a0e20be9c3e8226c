import SyscallBridge.Proofs.Instance.Order

/-!
# Calls of handlers

Any handlers, and any operations one after another. The calls that an operation makes are listed
with what is still waiting at the time of each, so that it can be said who is called while somebody
else waits. What the handlers have received is the events of these calls, and a call that panics
leaves the queue as the list has it.

The rest says what one operation may do to a lifecycle, whatever the handlers answer.
-/

namespace SyscallBridge

/-- An event that handlers are called with, and what is waiting at that time. -/
structure HandlerCall where
  event : Event
  behind : List Event

def Ending.panicked {α : Type} : Ending α → Bool
  | panics _ => true
  | _ => false

def Ending.failed {α : Type} : Ending α → Bool
  | fails _ => true
  | _ => false

def Verdict.panicked : Verdict → Bool
  | panics _ => true
  | answers _ => false

namespace Lifecycle

def liveCalls (l : Lifecycle) (e : Event) : List HandlerCall :=
  if l.handlers.isSome then [⟨e, l.waiting⟩] else []

def replayCalls (l : Lifecycle) : List Event → List HandlerCall
  | [] => []
  | e :: rest =>
    if l.phase = .destroyed then replayCalls l rest
    else
      let d := deliverLive { l with waiting := rest } e
      liveCalls { l with waiting := rest } e ++
        if d.ending.panicked then [] else replayCalls d.state rest

/-- The queue has been emptied before handlers are told of a destruction in it. -/
def refusalCalls (l : Lifecycle) : List HandlerCall :=
  if l.waiting.any Event.isDestroy then [⟨.destroy, []⟩] else []

def activationCalls (l : Lifecycle) (arguments : List (String × String)) : List HandlerCall :=
  match l.handlers with
  | none => []
  | some h =>
    ⟨.create arguments, l.waiting⟩ :: match l.call h (.create arguments) with
      | (.panics _, _) => []
      | (.answers false, l) => l.refusalCalls
      | (.answers true, l) => replayCalls { l with phase := .active } l.waiting

def deliveryCalls (l : Lifecycle) : Event → List HandlerCall
  | .create arguments => if l.phase = .uninitialized then l.activationCalls arguments else []
  | e => if l.phase = .active then l.liveCalls e else []

/-- Registration is refused when there are handlers, or have been. -/
abbrev Taken (l : Lifecycle) : Prop :=
  l.handlers.isSome ∨ l.phase = .active ∨ l.phase = .destroyed

/-- Events are held back, since the instance has not been created with handlers. -/
def HoldsBack (l : Lifecycle) : Prop := l.phase = .uninitialized ∨ l.phase = .awaitingHandlers

def registrationCalls (l : Lifecycle) (h : Handlers) : List HandlerCall :=
  if l.Taken then []
  else match l.arguments with
    | none => []
    | some arguments => activationCalls { l with handlers := some h, arguments := none } arguments

/-- The calls that an operation makes, in order. -/
def calls (l : Lifecycle) : LifecycleOp → List HandlerCall
  | .deliver e => l.deliveryCalls e
  | .register h => l.registrationCalls h

def panics (l : Lifecycle) : LifecycleOp → Bool
  | .deliver e => (l.deliver e).ending.panicked
  | .register h => (l.register h).ending.panicked

variable {l : Lifecycle} {h : Handlers}

theorem HoldsBack.ne_active (hb : l.HoldsBack) : l.phase ≠ .active := by
  rcases hb with hp | hp <;> rw [hp] <;> decide

theorem HoldsBack.ne_destroyed (hb : l.HoldsBack) : l.phase ≠ .destroyed := by
  rcases hb with hp | hp <;> rw [hp] <;> decide

theorem holdsBack_of_not_taken (ht : ¬ l.Taken) : l.HoldsBack := by
  cases hp : l.phase with
  | uninitialized => exact .inl hp
  | awaitingHandlers => exact .inr hp
  | active => exact absurd (.inr (.inl hp)) ht
  | destroyed => exact absurd (.inr (.inr hp)) ht

/-! ### Operations that are refused -/

theorem deliver_create_refused (hp : l.phase ≠ .uninitialized)
    (arguments : List (String × String)) :
    l.deliver (.create arguments) = ⟨l, .fails .duplicateInstance, []⟩ := by
  rw [deliver, create, if_pos hp]

theorem deliver_create_waits (hp : l.phase = .uninitialized) (hh : l.handlers = none)
    (arguments : List (String × String)) : l.deliver (.create arguments) =
      ⟨{ l with phase := .awaitingHandlers, arguments := some arguments }, .returns true, []⟩ := by
  have hnone : ¬ l.handlers.isSome = true := by
    rw [hh]
    decide
  rw [deliver, create, if_neg (not_not_intro hp), if_neg hnone]

theorem deliver_create_activates (hp : l.phase = .uninitialized) (hh : l.handlers = some h)
    (arguments : List (String × String)) :
    l.deliver (.create arguments) = l.activate arguments := by
  have hsome : l.handlers.isSome = true := by
    rw [hh]
    rfl
  rw [deliver, create, if_neg (not_not_intro hp), if_pos hsome]

theorem register_refused (ht : l.Taken) (h : Handlers) :
    l.register h = ⟨l, .fails (.invalidState "handlers already registered"), []⟩ := by
  rw [register, if_pos ht]

theorem register_waits (ht : ¬ l.Taken) (ha : l.arguments = none) (h : Handlers) :
    l.register h = ⟨{ l with handlers := some h }, .returns (), []⟩ := by
  rw [register, if_neg ht]
  simp only [ha]

theorem register_activates (ht : ¬ l.Taken) {arguments : List (String × String)}
    (ha : l.arguments = some arguments) (h : Handlers) :
    let d := activate { l with handlers := some h, arguments := none } arguments
    (l.register h).state = d.state ∧ (l.register h).ending.panicked = d.ending.panicked := by
  intro d
  rw [register, if_neg ht]
  have hd : activate { l with handlers := some h, arguments := none } arguments = d := rfl
  simp only [ha, hd]
  cases d.ending <;> exact ⟨rfl, rfl⟩

/-! ### The events of the calls -/

theorem received_deliverLive (l : Lifecycle) (e : Event) : (l.deliverLive e).state.received =
    l.received ++ (l.liveCalls e).map HandlerCall.event := by
  unfold deliverLive liveCalls
  cases l.handlers with
  | none => simp
  | some h =>
    simp only [call, Option.isSome_some, if_true, List.map_cons, List.map_nil]
    cases h.respond l.received e with
    | panics text => rfl
    | answers b =>
      dsimp only
      split <;> rfl

theorem received_replay (queue : List Event) (l : Lifecycle) : (replay l queue).state.received =
    l.received ++ (l.replayCalls queue).map HandlerCall.event := by
  induction queue generalizing l with
  | nil => simp [replay, replayCalls]
  | cons e rest ih =>
    rw [replay, replayCalls]
    by_cases hd : l.phase = .destroyed
    · rw [if_pos hd, if_pos hd, ih]
    · rw [if_neg hd, if_neg hd]
      have hlive := received_deliverLive { l with waiting := rest } e
      dsimp only at hlive ⊢
      cases hend : (deliverLive { l with waiting := rest } e).ending with
      | panics text =>
        simp only [Ending.panicked, if_true, List.append_nil]
        exact hlive
      | returns b | fails b =>
        simp only [Ending.panicked, Bool.false_eq_true, if_false, List.map_append]
        rw [ih, hlive, List.append_assoc]

theorem received_refuse (l : Lifecycle) (h : Handlers) : (l.refuse h).state.received =
    l.received ++ l.refusalCalls.map HandlerCall.event := by
  unfold refuse refusalCalls
  cases l.waiting.any Event.isDestroy with
  | false => simp
  | true =>
    simp only [if_true, call, List.map_cons, List.map_nil]
    cases h.respond l.received .destroy <;> rfl

theorem received_activate (l : Lifecycle) (arguments : List (String × String)) :
    (l.activate arguments).state.received =
      l.received ++ (l.activationCalls arguments).map HandlerCall.event := by
  unfold activate activationCalls
  cases l.handlers with
  | none => simp
  | some h =>
    simp only [call, List.map_cons]
    cases h.respond l.received (.create arguments) with
    | panics text => rfl
    | answers accepted =>
      cases accepted with
      | false =>
        dsimp only
        rw [received_refuse, List.append_assoc]
        rfl
      | true =>
        dsimp only
        rw [received_replay, List.append_assoc]
        rfl

/-! ### Giving one event -/

theorem deliverLive_cases (hh : l.handlers = some h) (e : Event) :
    (∃ text, l.deliverLive e = ⟨{ l with received := l.received ++ [e] }, .panics text, []⟩) ∨
    (e.isDestroy = true ∧ ∃ b, l.deliverLive e = ⟨{ l with
      received := l.received ++ [e], phase := .destroyed, handlers := none }, .returns b, []⟩) ∨
    (e.isDestroy = false ∧ ∃ b,
      l.deliverLive e = ⟨{ l with received := l.received ++ [e] }, .returns b, []⟩) := by
  simp only [deliverLive, hh, call]
  cases h.respond l.received e with
  | panics text => exact .inl ⟨text, rfl⟩
  | answers b =>
    refine .inr ?_
    cases e.isDestroy with
    | true => exact .inl ⟨rfl, handled e b, rfl⟩
    | false => exact .inr ⟨rfl, handled e b, rfl⟩

/-- A panic leaves everything as it was when the handler was called. -/
theorem liveCalls_of_panicked {e : Event} (hp : (l.deliverLive e).ending.panicked = true) :
    l.liveCalls e = [⟨e, (l.deliverLive e).state.waiting⟩] := by
  cases hh : l.handlers with
  | none =>
    simp only [deliverLive, hh] at hp
    cases hp
  | some h =>
    simp only [liveCalls, hh, Option.isSome_some, if_true]
    obtain ⟨text, hd⟩ | ⟨-, b, hd⟩ | ⟨-, b, hd⟩ := deliverLive_cases hh e
    · rw [hd]
    · rw [hd] at hp
      cases hp
    · rw [hd] at hp
      cases hp

/-! ### Replay and activation -/

/-- What the replay of a queue comes to. Only a panic leaves part of the queue waiting. -/
structure Replayed (l : Lifecycle) (queue : List Event) (d : Delivery Bool) : Prop where
  phase : d.state.phase = .active ∧ d.state.handlers = l.handlers ∨ d.state.phase = .destroyed
  arguments : d.state.arguments = l.arguments
  waiting : d.state.waiting <:+ queue
  drained : d.ending.panicked = false → d.state.waiting = []
  answered : d.ending.failed = false

theorem replayed (queue : List Event) (l : Lifecycle) (hp : l.phase = .active)
    (hh : l.handlers = some h) : Replayed l queue (replay l queue) := by
  induction queue generalizing l with
  | nil => exact ⟨.inl ⟨hp, rfl⟩, rfl, List.nil_suffix, fun _ => rfl, rfl⟩
  | cons e rest ih =>
    have hne : l.phase ≠ .destroyed := by
      rw [hp]
      decide
    rw [replay, if_neg hne]
    obtain ⟨text, hd⟩ | ⟨-, b, hd⟩ | ⟨-, b, hd⟩ :=
      deliverLive_cases (l := { l with waiting := rest }) hh e
    · rw [hd]
      exact ⟨.inl ⟨hp, rfl⟩, rfl, List.suffix_cons e rest, by simp [Ending.panicked], rfl⟩
    · -- a destruction empties the rest of the queue
      rw [hd]
      dsimp only
      rw [replay_destroyed _ rfl]
      exact ⟨.inr rfl, rfl, List.nil_suffix, fun _ => rfl, rfl⟩
    · rw [hd]
      have hrest := ih { l with waiting := rest, received := l.received ++ [e] } hp hh
      exact ⟨hrest.phase, hrest.arguments, hrest.waiting.trans (List.suffix_cons e rest),
        hrest.drained, hrest.answered⟩

theorem replayed_refuse (l : Lifecycle) (h : Handlers) :
    Replayed l l.waiting (l.refuse h) := by
  unfold refuse
  cases l.waiting.any Event.isDestroy with
  | false => exact ⟨.inr rfl, rfl, List.nil_suffix, fun _ => rfl, rfl⟩
  | true =>
    simp only [if_true, call]
    cases h.respond l.received .destroy with
    | panics text => exact ⟨.inr rfl, rfl, List.nil_suffix, by simp [Ending.panicked], rfl⟩
    | answers b => exact ⟨.inr rfl, rfl, List.nil_suffix, fun _ => rfl, rfl⟩

theorem refusalCalls_of_panicked (hp : (l.refuse h).ending.panicked = true) :
    l.refusalCalls = [⟨.destroy, (l.refuse h).state.waiting⟩] := by
  unfold refuse refusalCalls at *
  cases hany : l.waiting.any Event.isDestroy with
  | false =>
    simp only [hany] at hp
    cases hp
  | true =>
    simp only [if_true, call]
    cases h.respond l.received .destroy <;> rfl

/-- Either the handlers panic on the creation, and nothing else happens, or the creation goes
through and the queue is replayed or dropped. -/
theorem activate_cases (hh : l.handlers = some h) (arguments : List (String × String)) :
    (∃ text, h.respond l.received (.create arguments) = .panics text ∧ l.activate arguments =
      ⟨{ l with received := l.received ++ [.create arguments] }, .panics text, []⟩) ∨
    ((h.respond l.received (.create arguments)).panicked = false ∧
      Replayed l l.waiting (l.activate arguments)) := by
  simp only [activate, hh, call]
  cases h.respond l.received (.create arguments) with
  | panics text => exact .inl ⟨text, rfl, rfl⟩
  | answers accepted =>
    refine .inr ⟨rfl, ?_⟩
    cases accepted with
    | false =>
      have hr := replayed_refuse { l with received := l.received ++ [.create arguments] } h
      rw [← hh]
      exact ⟨hr.phase, hr.arguments, hr.waiting, hr.drained, hr.answered⟩
    | true =>
      have hr := replayed l.waiting (h := h)
        { l with received := l.received ++ [.create arguments], phase := .active } rfl hh
      rw [← hh]
      exact ⟨hr.phase, hr.arguments, hr.waiting, hr.drained, hr.answered⟩

/-- Each call of a replay takes the front of the queue. -/
theorem behind_replayCalls {queue : List Event} {l : Lifecycle} {c : HandlerCall}
    (hc : c ∈ l.replayCalls queue) : ∃ before, queue = before ++ c.event :: c.behind := by
  induction queue generalizing l with
  | nil => cases hc
  | cons e rest ih =>
    rw [replayCalls] at hc
    by_cases hd : l.phase = .destroyed
    · rw [if_pos hd] at hc
      obtain ⟨before, hb⟩ := ih hc
      exact ⟨e :: before, by rw [hb, List.cons_append]⟩
    · rw [if_neg hd] at hc
      rcases List.mem_append.1 hc with hc | hc
      · refine ⟨[], ?_⟩
        unfold liveCalls at hc
        split at hc
        · rw [List.mem_singleton.1 hc]
          rfl
        · cases hc
      · split at hc
        · cases hc
        · obtain ⟨before, hb⟩ := ih hc
          exact ⟨e :: before, by rw [hb, List.cons_append]⟩

/-- Activation calls the handlers with the creation, ahead of what waits, and after that tells
them of a destruction or takes from the front of the queue. -/
theorem activationCalls_eq (hh : l.handlers = some h) (arguments : List (String × String)) :
    ∃ rest, l.activationCalls arguments = ⟨.create arguments, l.waiting⟩ :: rest ∧
      ∀ c ∈ rest, c = ⟨.destroy, []⟩ ∨ ∃ before, l.waiting = before ++ c.event :: c.behind := by
  simp only [activationCalls, hh, call]
  refine ⟨_, rfl, fun c hc => ?_⟩
  cases hr : h.respond l.received (.create arguments) with
  | panics text =>
    simp only [hr] at hc
    cases hc
  | answers accepted =>
    simp only [hr] at hc
    cases accepted with
    | true => exact .inr (behind_replayCalls hc)
    | false =>
      left
      dsimp only [refusalCalls] at hc
      split at hc
      · exact List.mem_singleton.1 hc
      · cases hc

theorem replayCalls_of_panicked {queue : List Event} {l : Lifecycle}
    (hp : (replay l queue).ending.panicked = true) :
    ∃ e, (l.replayCalls queue).getLast? = some ⟨e, (replay l queue).state.waiting⟩ := by
  induction queue generalizing l with
  | nil => cases hp
  | cons e rest ih =>
    rw [replay] at hp ⊢
    rw [replayCalls]
    by_cases hd : l.phase = .destroyed
    · rw [if_pos hd] at hp ⊢
      rw [if_pos hd]
      exact ih hp
    · rw [if_neg hd] at hp ⊢
      rw [if_neg hd]
      dsimp only at hp ⊢
      cases hend : (deliverLive { l with waiting := rest } e).ending with
      | panics text =>
        have hlive : (deliverLive { l with waiting := rest } e).ending.panicked = true := by
          rw [hend]
          rfl
        refine ⟨e, ?_⟩
        simp only [Ending.panicked, if_true, List.append_nil, liveCalls_of_panicked hlive]
        rfl
      | returns b | fails b =>
        -- the call went well, so it is a later one that panics
        simp only [hend] at hp
        obtain ⟨last, hl⟩ := ih hp
        refine ⟨last, ?_⟩
        simp only [Ending.panicked, Bool.false_eq_true, if_false, List.getLast?_append, hl,
          Option.some_or]

/-! ### One operation -/

/-- What an operation can come to: the new state, the calls, and whether a handler panicked. -/
inductive Course (l : Lifecycle) : LifecycleOp → Lifecycle → List HandlerCall → Bool → Prop where
  | refusedCreation (arguments : List (String × String)) (hp : l.phase ≠ .uninitialized) :
    Course l (.deliver (.create arguments)) l [] false
  | refusedHandlers (h : Handlers) (ht : l.Taken) : Course l (.register h) l [] false
  | dropped (e : Event) (he : e.isCreate = false) (hp : l.phase = .destroyed) :
    Course l (.deliver e) l [] false
  | waits (e : Event) (he : e.isCreate = false) (hp : l.HoldsBack) :
    Course l (.deliver e) { l with waiting := l.waiting ++ [e] } [] false
  | live (e : Event) (he : e.isCreate = false) (hp : l.phase = .active) :
    Course l (.deliver e) (l.deliverLive e).state (l.liveCalls e)
      (l.deliverLive e).ending.panicked
  | created (arguments : List (String × String)) (hp : l.phase = .uninitialized)
    (hh : l.handlers = none) : Course l (.deliver (.create arguments))
      { l with phase := .awaitingHandlers, arguments := some arguments } [] false
  | creates (arguments : List (String × String)) (h : Handlers) (hp : l.phase = .uninitialized)
    (hh : l.handlers = some h) : Course l (.deliver (.create arguments))
      (l.activate arguments).state (l.activationCalls arguments)
      (l.activate arguments).ending.panicked
  | joins (h : Handlers) (ht : ¬ l.Taken) (ha : l.arguments = none) :
    Course l (.register h) { l with handlers := some h } [] false
  | starts (h : Handlers) (arguments : List (String × String)) (ht : ¬ l.Taken)
    (ha : l.arguments = some arguments) {start : Lifecycle}
    (hs : start = { l with handlers := some h, arguments := none }) : Course l (.register h)
      (start.activate arguments).state (start.activationCalls arguments)
      (start.activate arguments).ending.panicked

theorem course_create (l : Lifecycle) (arguments : List (String × String)) :
    Course l (.deliver (.create arguments)) (l.deliver (.create arguments)).state
      (l.deliveryCalls (.create arguments)) (l.deliver (.create arguments)).ending.panicked := by
  by_cases hp : l.phase = .uninitialized
  · have hcalls : l.deliveryCalls (.create arguments) = l.activationCalls arguments := if_pos hp
    rw [hcalls]
    cases hh : l.handlers with
    | none =>
      have hnone : l.activationCalls arguments = [] := by
        simp only [activationCalls, hh]
      rw [hnone, deliver_create_waits hp hh]
      exact .created arguments hp hh
    | some h =>
      rw [deliver_create_activates hp hh]
      exact .creates arguments h hp hh
  · have hcalls : l.deliveryCalls (.create arguments) = [] := if_neg hp
    rw [hcalls, deliver_create_refused hp]
    exact .refusedCreation arguments hp

theorem course_event (l : Lifecycle) {e : Event} (he : e.isCreate = false) :
    Course l (.deliver e) (l.deliver e).state (l.deliveryCalls e)
      (l.deliver e).ending.panicked := by
  have hcalls : l.deliveryCalls e = if l.phase = .active then l.liveCalls e else [] := by
    cases e with
    | create arguments => cases he
    | _ => rfl
  rw [deliver_of_not_create l he, hcalls]
  obtain ⟨phase, arguments, waiting, handlers, received⟩ := l
  cases phase with
  | active => exact .live e he rfl
  | uninitialized => exact .waits e he (.inl rfl)
  | awaitingHandlers => exact .waits e he (.inr rfl)
  | destroyed => exact .dropped e he rfl

theorem course_register (l : Lifecycle) (h : Handlers) :
    Course l (.register h) (l.register h).state (l.registrationCalls h)
      (l.register h).ending.panicked := by
  unfold registrationCalls
  by_cases ht : l.Taken
  · rw [register_refused ht, if_pos ht]
    exact .refusedHandlers h ht
  · rw [if_neg ht]
    cases ha : l.arguments with
    | none =>
      rw [register_waits ht ha]
      exact .joins h ht ha
    | some arguments =>
      obtain ⟨hstate, hend⟩ := register_activates ht ha h
      rw [hstate, hend]
      exact .starts h arguments ht ha rfl

theorem course (l : Lifecycle) (op : LifecycleOp) :
    Course l op (l.perform op) (l.calls op) (l.panics op) := by
  cases op with
  | register h => exact course_register l h
  | deliver e =>
    cases he : e.isCreate with
    | false => exact course_event l he
    | true =>
      cases e with
      | create arguments => exact course_create l arguments
      | _ => cases he

variable {op : LifecycleOp} {l' : Lifecycle} {calls : List HandlerCall} {panicked : Bool}

theorem Course.received (hc : Course l op l' calls panicked) :
    l'.received = l.received ++ calls.map HandlerCall.event := by
  cases hc with
  | live e => exact received_deliverLive l e
  | creates arguments => exact received_activate l arguments
  | starts h arguments ht ha hs =>
    subst hs
    exact received_activate _ arguments
  | refusedCreation | refusedHandlers | dropped | waits | created | joins =>
    exact (List.append_nil _).symm

theorem activationCalls_of_panicked {arguments : List (String × String)}
    (hp : (l.activate arguments).ending.panicked = true) :
    ∃ e, (l.activationCalls arguments).getLast? = some ⟨e, (l.activate arguments).state.waiting⟩ := by
  unfold activate activationCalls at *
  cases hh : l.handlers with
  | none =>
    rw [hh] at hp
    cases hp
  | some h =>
    simp only [hh, call] at hp ⊢
    cases hr : h.respond l.received (.create arguments) with
    | panics text => exact ⟨_, rfl⟩
    | answers accepted =>
      simp only [hr] at hp
      cases accepted with
      | false =>
        refine ⟨.destroy, ?_⟩
        dsimp only
        rw [refusalCalls_of_panicked hp]
        rfl
      | true =>
        obtain ⟨e, he⟩ := replayCalls_of_panicked hp
        refine ⟨e, ?_⟩
        dsimp only at he ⊢
        rw [List.getLast?_cons, he]
        rfl

theorem Course.waiting_of_panicked (hc : Course l op l' calls true) :
    ∃ e, calls.getLast? = some ⟨e, l'.waiting⟩ := by
  generalize hb : true = panicked at hc
  cases hc with
  | live e => exact ⟨e, by rw [liveCalls_of_panicked hb.symm]; rfl⟩
  | creates arguments => exact activationCalls_of_panicked hb.symm
  | starts h arguments => exact activationCalls_of_panicked hb.symm
  | refusedCreation | refusedHandlers | dropped | waits | created | joins => cases hb

end Lifecycle

end SyscallBridge
