import Mathlib.Data.List.Induction
import SyscallBridge.Proofs.Instance.Calls

/-!
# Who is called while others wait

Handlers that may panic, and operations that go on from there. The creation is given ahead of
everything that waits. All other events are given in the order of their arrival, until a panic
breaks off a replay: the instance is active by then and part of the queue still waits, and nothing
ever takes it up again. Whatever is delivered after that overtakes it.
-/

namespace SyscallBridge.Lifecycle

/-- The events that have been delivered, creations apart. -/
def arrivals (ops : List LifecycleOp) : List Event := ops.filterMap LifecycleOp.event?

theorem arrivals_snoc (ops : List LifecycleOp) (op : LifecycleOp) :
    arrivals (ops ++ [op]) = arrivals ops ++ op.event?.toList := by
  rw [arrivals, List.filterMap_append, List.filterMap_cons]
  cases op.event? <;> rfl

theorem after_snoc (ops : List LifecycleOp) (op : LifecycleOp) :
    after (ops ++ [op]) = (after ops).perform op := by
  rw [after, performAll, List.foldl_append]
  rfl

/-- An instance that is active while events wait, since a replay has been broken off. -/
def Interrupted (l : Lifecycle) : Prop := l.phase = .active ∧ l.waiting ≠ []

/-- Until the instance is active everything that has arrived is waiting. -/
structure Tracks (l : Lifecycle) (arrived : List Event) : Prop where
  held : l.HoldsBack → l.waiting = arrived
  plain : ∀ e ∈ l.waiting, e.isCreate = false
  live : l.phase = .active → l.handlers.isSome

variable {l l' : Lifecycle} {h : Handlers} {op : LifecycleOp} {arrived : List Event}
  {calls : List HandlerCall} {panicked : Bool}

theorem event?_of_not_create {e : Event} (he : e.isCreate = false) :
    (LifecycleOp.deliver e).event? = some e := by
  rw [LifecycleOp.event?, he]
  rfl

@[simp] theorem event?_create (arguments : List (String × String)) :
    (LifecycleOp.deliver (.create arguments)).event? = none := rfl

@[simp] theorem event?_register (h : Handlers) : (LifecycleOp.register h).event? = none := rfl

/-! ### One operation -/

theorem tracks_live (hl : l.Tracks arrived) (hp : l.phase = .active) (e : Event)
    (more : List Event) : (l.deliverLive e).state.Tracks (arrived ++ more) := by
  obtain ⟨h, hh⟩ := Option.isSome_iff_exists.1 (hl.live hp)
  obtain ⟨text, hd⟩ | ⟨-, b, hd⟩ | ⟨-, b, hd⟩ := deliverLive_cases hh e
  · rw [hd]
    exact ⟨fun hb => absurd hp (HoldsBack.ne_active hb), hl.plain, hl.live⟩
  · rw [hd]
    exact ⟨fun hb => absurd rfl hb.ne_destroyed, hl.plain, fun hn => Phase.noConfusion hn⟩
  · rw [hd]
    exact ⟨fun hb => absurd hp (HoldsBack.ne_active hb), hl.plain, hl.live⟩

theorem tracks_activate (hl : l.Tracks arrived) (hh : l.handlers = some h)
    (arguments : List (String × String)) : (l.activate arguments).state.Tracks arrived := by
  obtain ⟨text, -, hd⟩ | ⟨-, hr⟩ := activate_cases hh arguments
  · rw [hd]
    exact ⟨hl.held, hl.plain, hl.live⟩
  · have hplain : ∀ e ∈ (l.activate arguments).state.waiting, e.isCreate = false :=
      fun e he => hl.plain e (hr.waiting.subset he)
    rcases hr.phase with ⟨hp, hsame⟩ | hp
    · refine ⟨fun hb => absurd hp hb.ne_active, hplain, fun _ => ?_⟩
      rw [hsame, hh]
      rfl
    · refine ⟨fun hb => absurd hp hb.ne_destroyed, hplain, fun hn => ?_⟩
      rw [hp] at hn
      cases hn

theorem Tracks.step (hl : l.Tracks arrived) (hc : Course l op l' calls panicked) :
    l'.Tracks (arrived ++ op.event?.toList) := by
  cases hc with
  | refusedCreation | refusedHandlers => simpa using hl
  | dropped e he hp => exact ⟨fun hb => absurd hp hb.ne_destroyed, hl.plain, hl.live⟩
  | waits e he hp =>
    rw [event?_of_not_create he]
    refine ⟨fun _ => ?_, fun x hx => ?_, hl.live⟩
    · rw [hl.held hp]
      rfl
    · rcases List.mem_append.1 hx with hx | hx
      · exact hl.plain x hx
      · rw [List.mem_singleton.1 hx]
        exact he
  | live e he hp => exact tracks_live hl hp e _
  | created arguments hp =>
    rw [event?_create, Option.toList_none, List.append_nil]
    exact ⟨fun _ => hl.held (.inl hp), hl.plain, fun hn => Phase.noConfusion hn⟩
  | creates arguments h hp hh =>
    rw [event?_create, Option.toList_none, List.append_nil]
    exact tracks_activate hl hh arguments
  | joins h ht =>
    rw [event?_register, Option.toList_none, List.append_nil]
    exact ⟨hl.held, hl.plain, fun _ => rfl⟩
  | starts h arguments ht ha hs =>
    rw [event?_register, Option.toList_none, List.append_nil]
    have hstart : Tracks { l with handlers := some h, arguments := none } arrived :=
      ⟨hl.held, hl.plain, fun _ => rfl⟩
    rw [hs]
    exact tracks_activate hstart rfl arguments

theorem activate_interrupts (hh : l.handlers = some h) {arguments : List (String × String)}
    (hp : l.phase ≠ .active) (hi : (l.activate arguments).state.Interrupted) :
    (l.activate arguments).ending.panicked = true := by
  obtain ⟨text, -, hd⟩ | ⟨-, hr⟩ := activate_cases hh arguments
  · rw [hd] at hi
    exact absurd hi.1 hp
  · by_contra hn
    exact hi.2 (hr.drained (Bool.eq_false_iff.2 hn))

theorem not_interrupted_live (hi : ¬ l.Interrupted) (e : Event) :
    ¬ (l.deliverLive e).state.Interrupted := by
  cases hh : l.handlers with
  | none =>
    simp only [deliverLive, hh]
    exact hi
  | some h =>
    obtain ⟨text, hd⟩ | ⟨-, b, hd⟩ | ⟨-, b, hd⟩ := deliverLive_cases hh e
    · rw [hd]
      exact hi
    · rw [hd]
      exact fun hn => by cases hn.1
    · rw [hd]
      exact hi

theorem Course.interrupts (hc : Course l op l' calls panicked) (hi : ¬ l.Interrupted)
    (hi' : l'.Interrupted) : panicked = true := by
  cases hc with
  | refusedCreation | refusedHandlers | dropped => exact absurd hi' hi
  | waits e he hp => exact absurd hi'.1 hp.ne_active
  | live e => exact absurd hi' (not_interrupted_live hi e)
  | created => cases hi'.1
  | creates arguments h hp hh =>
    refine activate_interrupts hh ?_ hi'
    rw [hp]
    decide
  | joins h ht => exact absurd (.inr (.inl hi'.1)) ht
  | starts h arguments ht ha hs =>
    subst hs
    exact activate_interrupts rfl (fun hn => ht (.inr (.inl hn))) hi'

theorem behind_activationCalls (hh : l.handlers = some h) {arguments : List (String × String)}
    {c : HandlerCall} (hc : c ∈ l.activationCalls arguments) (he : c.event.isCreate = false) :
    c.behind = [] ∨ ∃ before, l.waiting = before ++ c.event :: c.behind := by
  obtain ⟨rest, hcalls, hrest⟩ := activationCalls_eq hh arguments
  rw [hcalls] at hc
  rcases List.mem_cons.1 hc with rfl | hc
  · cases he
  · rcases hrest c hc with rfl | hb
    · exact .inl rfl
    · exact .inr hb

/-- What waits behind an event that is given has come after it. -/
theorem Course.in_order (hc : Course l op l' calls panicked) (hl : l.Tracks arrived)
    (hi : ¬ l.Interrupted) {c : HandlerCall} (hm : c ∈ calls) (he : c.event.isCreate = false) :
    c.behind = [] ∨ ∃ earlier, arrived ++ op.event?.toList = earlier ++ c.event :: c.behind := by
  cases hc with
  | refusedCreation | refusedHandlers | dropped | waits | created | joins => cases hm
  | live e _ hp =>
    left
    have hempty : l.waiting = [] := by
      by_contra hn
      exact hi ⟨hp, hn⟩
    unfold liveCalls at hm
    split at hm
    · rw [List.mem_singleton.1 hm]
      exact hempty
    · cases hm
  | creates arguments h hp hh =>
    have hwaiting : l.waiting = arrived := hl.held (.inl hp)
    rw [event?_create, Option.toList_none, List.append_nil, ← hwaiting]
    exact behind_activationCalls hh hm he
  | starts h arguments ht ha hs =>
    have hwaiting : l.waiting = arrived := hl.held (holdsBack_of_not_taken ht)
    rw [event?_register, Option.toList_none, List.append_nil, ← hwaiting]
    subst hs
    exact behind_activationCalls (l := { l with handlers := some h, arguments := none }) rfl hm he

/-! ### Runs -/

theorem tracks_after (ops : List LifecycleOp) : (after ops).Tracks (arrivals ops) := by
  induction ops using List.reverseRecOn with
  | nil =>
    refine ⟨fun _ => rfl, fun e he => ?_, fun hn => ?_⟩
    · cases he
    · cases hn
  | append_singleton ops op ih =>
    rw [after_snoc, arrivals_snoc]
    exact ih.step (course _ op)

/-- The operation that has broken off a replay. -/
theorem exists_panic_of_interrupted {ops : List LifecycleOp} (hi : (after ops).Interrupted) :
    ∃ before op later, ops = before ++ op :: later ∧ ¬ (after before).Interrupted ∧
      (after before).panics op = true ∧ (after (before ++ [op])).Interrupted := by
  induction ops using List.reverseRecOn with
  | nil => cases hi.1
  | append_singleton ops op ih =>
    -- either it had been broken off before the last operation, or the last one has done it
    by_cases hold : (after ops).Interrupted
    · obtain ⟨before, first, later, rfl, hrest⟩ := ih hold
      exact ⟨before, first, later ++ [op], by simp, hrest⟩
    · refine ⟨ops, op, [], rfl, hold, ?_, hi⟩
      rw [after_snoc] at hi
      exact (course _ op).interrupts hold hi

theorem calls_of_interrupted {ops : List LifecycleOp} (hi : (after ops).Interrupted) {e : Event}
    (he : e.isCreate = false) : (after ops).calls (.deliver e) = [⟨e, (after ops).waiting⟩] := by
  have hlive : (after ops).handlers.isSome = true := (tracks_after ops).live hi.1
  have hcalls : (after ops).calls (.deliver e) = (after ops).liveCalls e := by
    cases e with
    | create arguments => cases he
    | _ => exact if_pos hi.1
  rw [hcalls, liveCalls, if_pos hlive]

/-- Any handlers, and any operations one after another; the calls of an operation are those whose
events the handlers receive in it, and a handler that panics leaves the queue as it stood at its
call. As long as no replay has been broken off, what waits when an event other than the creation is
given has come after that event. A replay is broken off by a panic with events still waiting; from
then on every event that comes is given at once, and overtakes them. -/
theorem in_order_until_interrupted (ops : List LifecycleOp) (op : LifecycleOp) :
    let l := after ops
    let l' := after (ops ++ [op])
    (l'.received = l.received ++ (l.calls op).map HandlerCall.event ∧
      (l.panics op = true → ∃ e, (l.calls op).getLast? = some ⟨e, l'.waiting⟩)) ∧
    (¬ l.Interrupted → ∀ c ∈ l.calls op, c.event.isCreate = false → c.behind = [] ∨
      ∃ earlier, arrivals (ops ++ [op]) = earlier ++ c.event :: c.behind) ∧
    (l.Interrupted → (∀ e, e.isCreate = false → l.calls (.deliver e) = [⟨e, l.waiting⟩]) ∧
      ∃ before first later, ops = before ++ first :: later ∧ ¬ (after before).Interrupted ∧
        (after before).panics first = true ∧ (after (before ++ [first])).Interrupted) := by
  intro l l'
  have hc := course l op
  have hl' : l' = l.perform op := after_snoc ops op
  refine ⟨⟨?_, fun hp => ?_⟩, fun hi c hm he => ?_, fun hi => ⟨fun e he => ?_, ?_⟩⟩
  · rw [hl']
    exact hc.received
  · rw [hp] at hc
    rw [hl']
    exact hc.waiting_of_panicked
  · rw [arrivals_snoc]
    exact hc.in_order (tracks_after ops) hi hm he
  · exact calls_of_interrupted hi he
  · exact exists_panic_of_interrupted hi

def panicsOnFocus : Handlers where
  respond _ e := match e with
    | .focus _ => .panics "handler panic in focus"
    | _ => .answers true

def interruptedRun : List LifecycleOp := [.deliver (.create []), .deliver (.focus true),
  .deliver .contextLost, .register panicsOnFocus]

/-- The replay is in order as far as it goes, and what comes after it is not. -/
theorem in_order_until_interrupted_replay :
    let before := interruptedRun.take 3
    (¬ (after before).Interrupted ∧
      (⟨.focus true, [.contextLost]⟩ : HandlerCall) ∈ (after before).calls (.register panicsOnFocus) ∧
      ∃ earlier, arrivals interruptedRun = earlier ++ .focus true :: [.contextLost]) ∧
    (after interruptedRun).Interrupted ∧
      (after interruptedRun).calls (.deliver .mouseLockLost) =
        [⟨.mouseLockLost, (after interruptedRun).waiting⟩] := by
  intro before
  have hfirst := in_order_until_interrupted before (.register panicsOnFocus)
  have hthen := in_order_until_interrupted interruptedRun (.deliver .mouseLockLost)
  have hsteady : ¬ (after before).Interrupted := fun hn => Phase.noConfusion hn.1
  have hcut : (after interruptedRun).Interrupted := ⟨rfl, List.cons_ne_nil _ _⟩
  have hmem : (⟨.focus true, [.contextLost]⟩ : HandlerCall) ∈
      (after before).calls (.register panicsOnFocus) := List.mem_cons_of_mem _ List.mem_cons_self
  refine ⟨⟨hsteady, hmem, ?_⟩, hcut, ?_⟩
  · exact (hfirst.2.1 hsteady _ hmem rfl).resolve_left (List.cons_ne_nil _ _)
  · exact (hthen.2.2 hcut).1 .mouseLockLost rfl

/-- An event is given while another one that has come before it waits. -/
theorem overtaken_after_panic :
    arrivals (interruptedRun ++ [.deliver .mouseLockLost]) =
      [.focus true, .contextLost, .mouseLockLost] ∧
    (after interruptedRun).calls (.deliver .mouseLockLost) = [⟨.mouseLockLost, [.contextLost]⟩] ∧
    (after (interruptedRun ++ [.deliver .mouseLockLost])).received =
      [.create [], .focus true, .mouseLockLost] ∧
    (after (interruptedRun ++ [.deliver .mouseLockLost])).waiting = [.contextLost] :=
  ⟨rfl, rfl, rfl, rfl⟩

end SyscallBridge.Lifecycle
