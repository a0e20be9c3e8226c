import SyscallBridge.Instance.Lifecycle

/-!
# The order of events

Deliveries and registrations in any order, with handlers that accept the creation and do not
panic. What they have been called with is then a function of what came: the creation, and after it
all other events in the order of their arrival, as far as the first destruction. The state of the
lifecycle is such a function too (`progress`), and the proof follows it from one operation to the
next.
-/

namespace SyscallBridge

/-- What a lifecycle is asked to do. -/
inductive LifecycleOp where
  | deliver (e : Event)
  | register (h : Handlers)

namespace LifecycleOp

/-- The arguments that a creation comes with. -/
def arguments? : LifecycleOp → Option (List (String × String))
  | deliver (.create arguments) => some arguments
  | _ => none

/-- The event that is delivered, if it is not a creation. -/
def event? : LifecycleOp → Option Event
  | deliver e => if e.isCreate then none else some e
  | register _ => none

def handlers? : LifecycleOp → Option Handlers
  | register h => some h
  | deliver _ => none

end LifecycleOp

/-- Handlers that never panic and accept every creation. -/
structure Handlers.Accepting (h : Handlers) : Prop where
  answers : ∀ past e, ∃ b, h.respond past e = .answers b
  creates : ∀ past arguments, h.respond past (.create arguments) = .answers true

namespace Lifecycle

/-- One operation, however it ends. -/
def perform (l : Lifecycle) : LifecycleOp → Lifecycle
  | .deliver e => (l.deliver e).state
  | .register h => (l.register h).state

def performAll (l : Lifecycle) (ops : List LifecycleOp) : Lifecycle := ops.foldl perform l

/-- A lifecycle from its beginning. -/
def after (ops : List LifecycleOp) : Lifecycle := performAll {} ops

/-- The events as far as the first destruction. -/
def throughDestroy : List Event → List Event
  | [] => []
  | e :: rest => if e.isDestroy then [e] else e :: throughDestroy rest

/-- What handlers are called with: nothing before there are both a creation and handlers, then the
first creation and all other events as far as the first destruction. -/
def expectedCalls (ops : List LifecycleOp) : List Event :=
  match ops.findSome? LifecycleOp.arguments?, ops.findSome? LifecycleOp.handlers? with
  | some arguments, some _ =>
    .create arguments :: throughDestroy (ops.filterMap LifecycleOp.event?)
  | _, _ => []

/-! ### Events up to a destruction -/

theorem throughDestroy_of_none {queue : List Event} (h : queue.any Event.isDestroy = false) :
    throughDestroy queue = queue := by
  induction queue with
  | nil => rfl
  | cons e rest ih =>
    rw [List.any_cons, Bool.or_eq_false_iff] at h
    rw [throughDestroy, h.1, if_neg (by simp), ih h.2]

theorem throughDestroy_append_of_any {queue : List Event} (h : queue.any Event.isDestroy = true)
    (more : List Event) : throughDestroy (queue ++ more) = throughDestroy queue := by
  induction queue with
  | nil => cases h
  | cons e rest ih =>
    rw [List.cons_append, throughDestroy, throughDestroy]
    cases he : e.isDestroy with
    | true => rfl
    | false =>
      rw [List.any_cons, he, Bool.false_or] at h
      rw [ih h]

theorem throughDestroy_append_of_none {queue : List Event}
    (h : queue.any Event.isDestroy = false) (e : Event) :
    throughDestroy (queue ++ [e]) = queue ++ [e] := by
  induction queue with
  | nil =>
    rw [List.nil_append, throughDestroy, throughDestroy]
    split <;> rfl
  | cons e' rest ih =>
    rw [List.any_cons, Bool.or_eq_false_iff] at h
    rw [List.cons_append, throughDestroy, h.1, if_neg (by simp), ih h.2]

/-! ### Replay -/

/-- Replay finds nobody to call after the destruction. -/
theorem replay_destroyed (l : Lifecycle) (h : l.phase = .destroyed) (queue : List Event) :
    replay l queue = ⟨{ l with waiting := [] }, .returns true, []⟩ := by
  induction queue with
  | nil => rfl
  | cons e rest ih => rw [replay, if_pos h, ih]

/-- An event for accepting handlers. -/
theorem deliverLive_accepting {h : Handlers} (ha : h.Accepting) {l : Lifecycle}
    (hl : l.handlers = some h) (e : Event) : ∃ b, l.deliverLive e =
      ⟨if e.isDestroy then
          { l with received := l.received ++ [e], phase := .destroyed, handlers := none }
        else { l with received := l.received ++ [e] }, .returns b, []⟩ := by
  obtain ⟨b, hb⟩ := ha.answers l.received e
  refine ⟨handled e b, ?_⟩
  simp only [deliverLive, hl, call, hb]

/-- Replay gives accepting handlers the queue, as far as the first destruction. -/
theorem replay_accepting {h : Handlers} (ha : h.Accepting) (queue : List Event) (l : Lifecycle)
    (hl : l.handlers = some h) (hp : l.phase = .active) : replay l queue =
      ⟨if queue.any Event.isDestroy then
          { l with waiting := [], phase := .destroyed, handlers := none,
                   received := l.received ++ throughDestroy queue }
        else { l with waiting := [], received := l.received ++ queue }, .returns true, []⟩ := by
  induction queue generalizing l with
  | nil => simp [replay]
  | cons e rest ih =>
    have hne : l.phase ≠ .destroyed := by
      rw [hp]
      decide
    obtain ⟨b, hb⟩ := deliverLive_accepting ha (l := { l with waiting := rest }) hl e
    rw [replay, if_neg hne, hb, List.any_cons, throughDestroy]
    cases he : e.isDestroy with
    | true =>
      simp only [if_true, Bool.true_or]
      rw [replay_destroyed _ rfl]
    | false =>
      simp only [Bool.false_eq_true, if_false, Bool.false_or]
      rw [ih { l with waiting := rest, received := l.received ++ [e] } hl hp]
      simp only [List.append_assoc, List.singleton_append]

/-! ### The state after any operations -/

/-- The state when these arguments came with the first creation, these handlers were the first to
be registered, and these were the other events. -/
def progress (arguments : Option (List (String × String))) (handlers : Option Handlers)
    (events : List Event) : Lifecycle :=
  match arguments, handlers with
  | none, handlers => { waiting := events, handlers }
  | some arguments, none =>
    { phase := .awaitingHandlers, arguments := some arguments, waiting := events }
  | some arguments, some h =>
    if events.any Event.isDestroy then
      { phase := .destroyed, received := .create arguments :: throughDestroy events }
    else { phase := .active, handlers := some h, received := .create arguments :: events }

/-- Creation with handlers that accept it: whatever was waiting is replayed. -/
theorem activate_accepting {h : Handlers} (ha : h.Accepting) (arguments : List (String × String))
    (events : List Event) (phase : Phase) :
    ({ phase, waiting := events, handlers := some h } : Lifecycle).activate arguments =
      ⟨progress (some arguments) (some h) events, .returns true, []⟩ := by
  simp only [activate, call, ha.creates]
  rw [replay_accepting ha _ _ rfl rfl, progress]
  rfl

theorem deliver_of_not_create (l : Lifecycle) {e : Event} (he : e.isCreate = false) :
    l.deliver e = match l.phase with
      | .active => l.deliverLive e
      | .uninitialized | .awaitingHandlers =>
        ⟨{ l with waiting := l.waiting ++ [e] }, .returns false, []⟩
      | .destroyed => ⟨l, .returns false, []⟩ := by
  cases e with
  | create arguments => cases he
  | _ => rfl

/-- A second creation is refused and changes nothing. -/
theorem deliver_create_again (arguments : List (String × String)) (handlers : Option Handlers)
    (events : List Event) (again : List (String × String)) :
    (progress (some arguments) handlers events).deliver (.create again) =
      ⟨progress (some arguments) handlers events, .fails .duplicateInstance, []⟩ := by
  have hphase : (progress (some arguments) handlers events).phase ≠ .uninitialized := by
    cases handlers with
    | none => exact Phase.noConfusion
    | some h =>
      rw [progress]
      split <;> exact Phase.noConfusion
  rw [deliver, create, if_pos hphase]

/-- A second registration is refused and changes nothing. -/
theorem register_again (arguments : Option (List (String × String))) (h : Handlers)
    (events : List Event) (again : Handlers) :
    (progress arguments (some h) events).register again =
      ⟨progress arguments (some h) events, .fails (.invalidState "handlers already registered"),
        []⟩ := by
  rw [register, if_pos]
  cases arguments with
  | none => exact .inl rfl
  | some arguments =>
    rw [progress]
    split
    · exact .inr (.inr rfl)
    · exact .inl rfl

theorem deliver_event (arguments : Option (List (String × String))) (handlers : Option Handlers)
    (hgood : ∀ h ∈ handlers, h.Accepting) (events : List Event) {e : Event}
    (he : e.isCreate = false) :
    ((progress arguments handlers events).deliver e).state =
      progress arguments handlers (events ++ [e]) := by
  rw [deliver_of_not_create _ he]
  cases arguments with
  | none => rfl
  | some arguments =>
    cases handlers with
    | none => rfl
    | some h =>
      simp only [progress, List.any_append, List.any_cons, List.any_nil, Bool.or_false]
      cases hd : events.any Event.isDestroy with
      | true =>
        simp only [if_true, Bool.true_or]
        rw [throughDestroy_append_of_any hd]
      | false =>
        simp only [Bool.false_eq_true, if_false, Bool.false_or]
        obtain ⟨b, hb⟩ := deliverLive_accepting (hgood h rfl)
          (l := { phase := .active, handlers := some h, received := .create arguments :: events })
          rfl e
        rw [hb, throughDestroy_append_of_none hd]
        split <;> rfl

/-- One operation: the first creation and the first handlers stay, and events add up. -/
theorem perform_progress (arguments : Option (List (String × String)))
    (handlers : Option Handlers) (events : List Event) (op : LifecycleOp)
    (hgood : ∀ h ∈ handlers.or op.handlers?, h.Accepting) :
    (progress arguments handlers events).perform op =
      progress (arguments.or op.arguments?) (handlers.or op.handlers?)
        (events ++ op.event?.toList) := by
  cases op with
  | deliver e =>
    cases he : e.isCreate with
    | true =>
      cases e with
      | create new =>
        simp only [perform, LifecycleOp.event?, LifecycleOp.arguments?, LifecycleOp.handlers?,
          Option.or_none, he, if_true, Option.toList_none, List.append_nil] at hgood ⊢
        cases arguments with
        | some arguments =>
          rw [deliver_create_again]
          rfl
        | none =>
          cases handlers with
          | none => rfl
          | some h =>
            have hcreate : (progress none (some h) events).deliver (.create new) =
                ({ waiting := events, handlers := some h } : Lifecycle).activate new := rfl
            rw [hcreate, activate_accepting (hgood h rfl)]
            rfl
      | _ => cases he
    | false =>
      have hargs : (LifecycleOp.deliver e).arguments? = none := by
        cases e with
        | create arguments => cases he
        | _ => rfl
      have hnone : (LifecycleOp.deliver e).handlers? = none := rfl
      rw [hnone, Option.or_none] at hgood
      rw [hargs, hnone, Option.or_none, Option.or_none]
      simp only [perform, LifecycleOp.event?, he, Bool.false_eq_true, if_false,
        Option.toList_some]
      exact deliver_event arguments handlers hgood events he
  | register new =>
    simp only [perform, LifecycleOp.event?, LifecycleOp.arguments?, LifecycleOp.handlers?,
      Option.or_none, Option.toList_none, List.append_nil] at hgood ⊢
    cases handlers with
    | some h =>
      rw [register_again]
      rfl
    | none =>
      cases arguments with
      | none => rfl
      | some arguments =>
        have hactive := activate_accepting (hgood new rfl) arguments events .awaitingHandlers
        have hfree : ¬ ((progress (some arguments) none events).handlers.isSome ∨
            (progress (some arguments) none events).phase = .active ∨
            (progress (some arguments) none events).phase = .destroyed) := by
          simp [progress]
        rw [register, if_neg hfree]
        simp only [progress, hactive]
        rfl

theorem findSome?_cons_or {α β : Type} (f : α → Option β) (a : α) (rest : List α) :
    (a :: rest).findSome? f = (f a).or (rest.findSome? f) := by
  rw [List.findSome?_cons]
  cases f a <;> rfl

theorem performAll_progress (ops : List LifecycleOp) (arguments : Option (List (String × String)))
    (handlers : Option Handlers) (events : List Event)
    (hgood : ∀ h ∈ handlers, h.Accepting) (hops : ∀ h, .register h ∈ ops → h.Accepting) :
    (progress arguments handlers events).performAll ops =
      progress (arguments.or (ops.findSome? LifecycleOp.arguments?))
        (handlers.or (ops.findSome? LifecycleOp.handlers?))
        (events ++ ops.filterMap LifecycleOp.event?) := by
  induction ops generalizing arguments handlers events with
  | nil => simp [performAll]
  | cons op rest ih =>
    have hop : ∀ h ∈ handlers.or op.handlers?, h.Accepting := by
      intro h hh
      rcases Option.or_eq_some_iff.mp hh with hh | ⟨-, hh⟩
      · exact hgood h hh
      · cases op with
        | deliver e => cases hh
        | register h' =>
          cases hh
          exact hops h List.mem_cons_self
    have hrest : ∀ h, LifecycleOp.register h ∈ rest → h.Accepting :=
      fun h hh => hops h (List.mem_cons_of_mem _ hh)
    change performAll (perform _ op) rest = _
    rw [perform_progress _ _ _ _ hop, ih _ _ _ hop hrest, Option.or_assoc, Option.or_assoc,
      List.append_assoc]
    have hevents : (op :: rest).filterMap LifecycleOp.event? =
        op.event?.toList ++ rest.filterMap LifecycleOp.event? := by
      rw [List.filterMap_cons]
      cases op.event? <;> rfl
    rw [findSome?_cons_or, findSome?_cons_or, hevents]

/-- The state after any operations from the beginning. -/
theorem after_eq_progress (ops : List LifecycleOp) (hops : ∀ h, .register h ∈ ops → h.Accepting) :
    after ops = progress (ops.findSome? LifecycleOp.arguments?)
      (ops.findSome? LifecycleOp.handlers?) (ops.filterMap LifecycleOp.event?) := by
  have h := performAll_progress ops none none [] (fun h hh => by cases hh) hops
  rw [Option.none_or, Option.none_or, List.nil_append] at h
  exact h

theorem received_progress (arguments : Option (List (String × String)))
    (handlers : Option Handlers) (events : List Event) :
    (progress arguments handlers events).received = match arguments, handlers with
      | some arguments, some _ => .create arguments :: throughDestroy events
      | _, _ => [] := by
  cases arguments with
  | none => rfl
  | some arguments =>
    cases handlers with
    | none => rfl
    | some h =>
      rw [progress]
      cases hd : events.any Event.isDestroy with
      | true => rfl
      | false => rw [throughDestroy_of_none hd]; rfl

/-- Accepting handlers are called with the first creation and all other events in the order of
their arrival, as far as the first destruction, as soon as there are both a creation and handlers.
Another creation or another registration is refused and changes nothing at all. -/
theorem received_in_order (ops : List LifecycleOp) (hops : ∀ h, .register h ∈ ops → h.Accepting) :
    (after ops).received = expectedCalls ops ∧
    (∀ arguments again, .deliver (.create arguments) ∈ ops →
      (after ops).deliver (.create again) = ⟨after ops, .fails .duplicateInstance, []⟩) ∧
    ∀ h again, .register h ∈ ops → (after ops).register again =
      ⟨after ops, .fails (.invalidState "handlers already registered"), []⟩ := by
  rw [after_eq_progress ops hops]
  refine ⟨?_, ?_, ?_⟩
  · rw [received_progress, expectedCalls]
  · intro arguments again hmem
    obtain ⟨first, hfirst⟩ : ∃ first, ops.findSome? LifecycleOp.arguments? = some first := by
      rw [← Option.isSome_iff_exists, List.findSome?_isSome_iff]
      exact ⟨_, hmem, rfl⟩
    rw [hfirst]
    exact deliver_create_again _ _ _ _
  · intro h again hmem
    obtain ⟨first, hfirst⟩ : ∃ first, ops.findSome? LifecycleOp.handlers? = some first := by
      rw [← Option.isSome_iff_exists, List.findSome?_isSome_iff]
      exact ⟨_, hmem, rfl⟩
    rw [hfirst]
    exact register_again _ _ _ _

theorem quiet_accepting : Handlers.quiet.Accepting where
  answers past e := by cases e <;> exact ⟨_, rfl⟩
  creates _ _ := rfl

/-- Handlers between a first event and the creation; nothing behind the destruction counts. -/
theorem received_in_order_of_early_handlers :
    let ops : List LifecycleOp := [.deliver (.focus true), .register .quiet,
      .deliver (.create [("src", "app")]), .deliver .contextLost, .deliver .destroy,
      .deliver .mouseLockLost, .deliver (.create [])]
    (∀ h, .register h ∈ ops → h.Accepting) ∧
      (after ops).received =
        [.create [("src", "app")], .focus true, .contextLost, .destroy] ∧
      (after ops).deliver (.create []) = ⟨after ops, .fails .duplicateInstance, []⟩ ∧
      (after ops).register .quiet =
        ⟨after ops, .fails (.invalidState "handlers already registered"), []⟩ := by
  intro ops
  have hops : ∀ h, .register h ∈ ops → h.Accepting := by
    intro h hh
    have he : h = .quiet := by simpa [ops] using hh
    rw [he]
    exact quiet_accepting
  obtain ⟨hreceived, hcreate, hregister⟩ := received_in_order ops hops
  refine ⟨hops, hreceived, ?_, ?_⟩
  · exact hcreate [("src", "app")] [] (by simp [ops])
  · exact hregister .quiet .quiet (by simp [ops])

end Lifecycle

end SyscallBridge
