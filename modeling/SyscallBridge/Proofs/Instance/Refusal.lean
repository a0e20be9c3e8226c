import SyscallBridge.Proofs.Instance.Calls

/-!
# Refused creations

Handlers that refuse the creation and do not panic, in any order of deliveries and registrations.
They are called with the creation and, if a destruction has arrived by then, with that; nothing
else reaches them. A destruction that arrives after the refusal is dropped, so that whether they
are told of it depends on which came first. As with handlers that accept, the state is a function
of what came (`refusal`), which is followed from one operation to the next.
-/

namespace SyscallBridge

/-- Handlers that refuse a creation, and do not panic when they are told of a destruction then. -/
structure Handlers.Refuses (h : Handlers) (arguments : List (String × String)) : Prop where
  create : h.respond [] (.create arguments) = .answers false
  destroy : ∃ b, h.respond [.create arguments] .destroy = .answers b

namespace Lifecycle

/-- The events, creations apart, that come before there are both a creation and handlers. -/
def earlyEvents (created registered : Bool) : List LifecycleOp → List Event
  | [] => []
  | op :: ops =>
    if created && registered then []
    else op.event?.toList ++ earlyEvents (created || op.arguments?.isSome)
      (registered || op.handlers?.isSome) ops

def refusalOf (arguments : List (String × String)) (early : List Event) : List Event :=
  .create arguments :: if early.any Event.isDestroy then [.destroy] else []

/-- The state when these arguments came with the first creation, these handlers were the first to
be registered, and these events came before there were both. -/
def refusal (arguments : Option (List (String × String))) (handlers : Option Handlers)
    (early : List Event) : Lifecycle :=
  match arguments, handlers with
  | none, handlers => { waiting := early, handlers }
  | some arguments, none =>
    { phase := .awaitingHandlers, arguments := some arguments, waiting := early }
  | some arguments, some _ => { phase := .destroyed, received := refusalOf arguments early }

theorem activate_refusing {h : Handlers} {arguments : List (String × String)}
    (hr : h.Refuses arguments) (early : List Event) (phase : Phase) :
    (activate { phase, waiting := early, handlers := some h } arguments) =
      ⟨refusal (some arguments) (some h) early, .returns false, [.creationFailed]⟩ := by
  obtain ⟨b, hb⟩ := hr.destroy
  simp only [activate, call, hr.create, refuse, refusal, refusalOf, List.nil_append]
  cases early.any Event.isDestroy with
  | false => rfl
  | true =>
    simp only [if_true, hb]
    rfl

/-- An event waits as long as there are not both, and is dropped from then on. -/
theorem deliver_event_refusal (arguments : Option (List (String × String)))
    (handlers : Option Handlers) (early : List Event) {e : Event} (he : e.isCreate = false) :
    ((refusal arguments handlers early).deliver e).state = refusal arguments handlers
      (if arguments.isSome && handlers.isSome then early else early ++ [e]) := by
  rw [deliver_of_not_create _ he]
  cases arguments with
  | none => rfl
  | some arguments => cases handlers <;> rfl

theorem deliver_create_refusal (arguments : Option (List (String × String)))
    (handlers : Option Handlers) (early : List Event) (new : List (String × String))
    (hrefuse : ∀ h ∈ handlers, ∀ a ∈ arguments.or (some new), h.Refuses a) :
    ((refusal arguments handlers early).deliver (.create new)).state =
      refusal (arguments.or (some new)) handlers early := by
  cases arguments with
  | some arguments =>
    have hphase : (refusal (some arguments) handlers early).phase ≠ .uninitialized := by
      cases handlers <;> exact Phase.noConfusion
    rw [deliver_create_refused hphase]
    rfl
  | none =>
    cases handlers with
    | none => rfl
    | some h =>
      have hactive := activate_refusing (hrefuse h rfl new rfl) early .uninitialized
      rw [deliver_create_activates rfl rfl]
      exact congrArg Delivery.state hactive

theorem register_refusal (arguments : Option (List (String × String)))
    (handlers : Option Handlers) (early : List Event) (new : Handlers)
    (hrefuse : ∀ h ∈ handlers.or (some new), ∀ a ∈ arguments, h.Refuses a) :
    ((refusal arguments handlers early).register new).state =
      refusal arguments (handlers.or (some new)) early := by
  cases handlers with
  | some h =>
    have htaken : (refusal arguments (some h) early).Taken := by
      cases arguments with
      | none => exact .inl rfl
      | some arguments => exact .inr (.inr rfl)
    rw [register_refused htaken]
    rfl
  | none =>
    cases arguments with
    | none => rfl
    | some arguments =>
      have hactive := activate_refusing (hrefuse new rfl arguments rfl) early .awaitingHandlers
      have hfree : ¬ (refusal (some arguments) none early).Taken := by
        simp [refusal]
      rw [(register_activates hfree rfl new).1]
      exact congrArg Delivery.state hactive

/-- One operation: the first creation and the first handlers stay, and events add up until there
are both. -/
theorem perform_refusal (arguments : Option (List (String × String)))
    (handlers : Option Handlers) (early : List Event) (op : LifecycleOp)
    (hrefuse : ∀ h ∈ handlers.or op.handlers?, ∀ a ∈ arguments.or op.arguments?, h.Refuses a) :
    (refusal arguments handlers early).perform op =
      refusal (arguments.or op.arguments?) (handlers.or op.handlers?)
        (if arguments.isSome && handlers.isSome then early else early ++ op.event?.toList) := by
  cases op with
  | register new =>
    have hnew : ∀ h ∈ handlers.or (some new), ∀ a ∈ arguments, h.Refuses a := by
      intro h hh a ha
      exact hrefuse h hh a (Option.or_eq_some_iff.2 (.inl ha))
    have hstate := register_refusal arguments handlers early new hnew
    simpa [perform, LifecycleOp.arguments?, LifecycleOp.handlers?, LifecycleOp.event?] using hstate
  | deliver e =>
    cases he : e.isCreate with
    | false =>
      have hargs : (LifecycleOp.deliver e).arguments? = none := by
        cases e with
        | create arguments => cases he
        | _ => rfl
      have hstate := deliver_event_refusal arguments handlers early he
      simpa [perform, hargs, LifecycleOp.handlers?, LifecycleOp.event?, he] using hstate
    | true =>
      cases e with
      | create new =>
        have hnew : ∀ h ∈ handlers, ∀ a ∈ arguments.or (some new), h.Refuses a := by
          intro h hh a ha
          exact hrefuse h (Option.or_eq_some_iff.2 (.inl hh)) a ha
        have hstate := deliver_create_refusal arguments handlers early new hnew
        simpa [perform, LifecycleOp.arguments?, LifecycleOp.handlers?, LifecycleOp.event?,
          Event.isCreate] using hstate
      | _ => cases he

theorem earlyEvents_of_both (ops : List LifecycleOp) : earlyEvents true true ops = [] := by
  cases ops <;> rfl

theorem performAll_refusal (ops : List LifecycleOp) (arguments : Option (List (String × String)))
    (handlers : Option Handlers) (early : List Event)
    (hrefuse : ∀ h ∈ handlers.or (ops.findSome? LifecycleOp.handlers?),
      ∀ a ∈ arguments.or (ops.findSome? LifecycleOp.arguments?), h.Refuses a) :
    (refusal arguments handlers early).performAll ops =
      refusal (arguments.or (ops.findSome? LifecycleOp.arguments?))
        (handlers.or (ops.findSome? LifecycleOp.handlers?))
        (early ++ earlyEvents arguments.isSome handlers.isSome ops) := by
  induction ops generalizing arguments handlers early with
  | nil => simp [performAll, earlyEvents]
  | cons op rest ih =>
    rw [findSome?_cons_or, findSome?_cons_or, ← Option.or_assoc, ← Option.or_assoc] at hrefuse
    have hop : ∀ h ∈ handlers.or op.handlers?, ∀ a ∈ arguments.or op.arguments?,
        h.Refuses a := by
      intro h hh a ha
      exact hrefuse h (Option.or_eq_some_iff.2 (.inl hh)) a (Option.or_eq_some_iff.2 (.inl ha))
    change performAll (perform _ op) rest = _
    rw [perform_refusal _ _ _ _ hop, ih _ _ _ hrefuse, findSome?_cons_or, findSome?_cons_or,
      Option.or_assoc, Option.or_assoc, earlyEvents, Option.isSome_or, Option.isSome_or]
    cases hboth : arguments.isSome && handlers.isSome with
    | false => simp
    | true =>
      -- there were both before, so nothing that comes is early
      obtain ⟨ha, hh⟩ := (Bool.and_eq_true _ _).mp hboth
      simp [ha, hh, earlyEvents_of_both]

/-- The handlers that are registered first refuse the first creation, and no handler panics. As soon
as there are both, they have been called with the creation, and after it with a destruction just if
one had come before there were both. They are not called again, whatever comes. -/
theorem refused_told_of_early_destroy (ops : List LifecycleOp)
    (hops : ∀ h ∈ ops.findSome? LifecycleOp.handlers?,
      ∀ a ∈ ops.findSome? LifecycleOp.arguments?, h.Refuses a) : (after ops).received =
      match ops.findSome? LifecycleOp.arguments?, ops.findSome? LifecycleOp.handlers? with
      | some arguments, some _ => .create arguments ::
        if (earlyEvents false false ops).any Event.isDestroy then [.destroy] else []
      | _, _ => [] := by
  have hafter := performAll_refusal ops none none [] hops
  rw [Option.none_or, Option.none_or, List.nil_append] at hafter
  change (performAll {} ops).received = _
  have hstart : (refusal none none [] : Lifecycle) = {} := rfl
  rw [← hstart, hafter]
  cases ops.findSome? LifecycleOp.arguments? with
  | none => rfl
  | some arguments => cases ops.findSome? LifecycleOp.handlers? <;> rfl

def refusesCreation : Handlers where
  respond _ e := .answers (!e.isCreate)

theorem refusesCreation_refuses (arguments : List (String × String)) :
    refusesCreation.Refuses arguments where
  create := rfl
  destroy := ⟨true, rfl⟩

/-- A destruction that waits together with other events, and one more that comes after. -/
theorem refused_told_of_early_destroy_once :
    let ops : List LifecycleOp := [.deliver (.focus true), .deliver .destroy,
      .deliver (.create []), .deliver .contextLost, .register refusesCreation, .deliver .destroy]
    (∀ h ∈ ops.findSome? LifecycleOp.handlers?,
      ∀ a ∈ ops.findSome? LifecycleOp.arguments?, h.Refuses a) ∧
      (after ops).received = [.create [], .destroy] := by
  intro ops
  have hops : ∀ h ∈ ops.findSome? LifecycleOp.handlers?,
      ∀ a ∈ ops.findSome? LifecycleOp.arguments?, h.Refuses a := by
    intro h hh a _
    have he : refusesCreation = h := Option.some.inj hh
    rw [← he]
    exact refusesCreation_refuses a
  exact ⟨hops, refused_told_of_early_destroy ops hops⟩

/-- The same creation and the same destruction the other way round: the handlers are not told. -/
theorem late_destroy_not_told :
    (after [.register refusesCreation, .deliver (.create []), .deliver .destroy]).received =
      [.create []] ∧
    (after [.register refusesCreation, .deliver .destroy, .deliver (.create [])]).received =
      [.create [], .destroy] := ⟨rfl, rfl⟩

end Lifecycle

end SyscallBridge
