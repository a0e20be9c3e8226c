import SyscallBridge.Proofs.Instance.Overtaking

/-!
# One creation

How often a creation is taken up, and how often handlers are called with one, in runs with any
handlers. Both happen once, plus once for each creation that was delivered to handlers that were
there already and panicked on it: such a creation leaves the instance uninitialized, and the next
one is taken up again. Handlers that are registered after the creation may panic on it without that
effect, since the creation has been noted by then.
-/

namespace SyscallBridge.Lifecycle

/-- A creation that is not refused. -/
def takesCreation (l : Lifecycle) : LifecycleOp → Bool
  | .deliver (.create arguments) => !(l.deliver (.create arguments)).ending.failed
  | _ => false

/-- A creation on whose delivery handlers are called and panic. -/
def panicsOnCreation (l : Lifecycle) : LifecycleOp → Bool
  | .deliver (.create arguments) => l.phase = .uninitialized &&
      l.handlers.any fun h => (h.respond l.received (.create arguments)).panicked
  | _ => false

/-- How many of the operations are of some kind, each asked where the run has come to it. -/
def tally (kind : Lifecycle → LifecycleOp → Bool) (l : Lifecycle) : List LifecycleOp → Nat
  | [] => 0
  | op :: ops => (kind l op).toNat + tally kind (l.perform op) ops

theorem tally_snoc (kind : Lifecycle → LifecycleOp → Bool) (l : Lifecycle)
    (ops : List LifecycleOp) (op : LifecycleOp) :
    tally kind l (ops ++ [op]) = tally kind l ops + (kind (l.performAll ops) op).toNat := by
  induction ops generalizing l with
  | nil => simp [tally, performAll]
  | cons first rest ih =>
    have hrest : performAll l (first :: rest) = performAll (l.perform first) rest := rfl
    rw [List.cons_append, tally, tally, ih, hrest]
    omega

variable {l l' : Lifecycle} {h : Handlers} {op : LifecycleOp} {arrived : List Event}
  {calls : List HandlerCall} {panicked : Bool} {taken repeated : Nat}

/-- The counts that go with a state: `taken` creations have been taken up, and `repeated` of them
have left it as if there had been none. -/
structure Counted (l : Lifecycle) (taken repeated : Nat) : Prop where
  taken_eq : taken = repeated + if l.phase = .uninitialized then 0 else 1
  received_eq : l.received.countP Event.isCreate =
    repeated + if l.phase = .uninitialized ∨ l.arguments.isSome then 0 else 1
  noted : l.phase = .uninitialized → l.arguments = none

/-! ### One operation -/

theorem takesCreation_event {e : Event} (he : e.isCreate = false) :
    l.takesCreation (.deliver e) = false ∧ l.panicsOnCreation (.deliver e) = false := by
  cases e with
  | create arguments => cases he
  | _ => exact ⟨rfl, rfl⟩

theorem takesCreation_create (hp : l.phase = .uninitialized)
    (arguments : List (String × String)) :
    l.takesCreation (.deliver (.create arguments)) = true := by
  rw [takesCreation]
  cases hh : l.handlers with
  | none =>
    rw [deliver_create_waits hp hh]
    rfl
  | some h =>
    rw [deliver_create_activates hp hh]
    obtain ⟨text, -, hd⟩ | ⟨-, hr⟩ := activate_cases hh arguments
    · rw [hd]
      rfl
    · rw [hr.answered]
      rfl

theorem countP_activate (hh : l.handlers = some h) (hplain : ∀ e ∈ l.waiting, e.isCreate = false)
    (arguments : List (String × String)) :
    (l.activate arguments).state.received.countP Event.isCreate =
      l.received.countP Event.isCreate + 1 := by
  obtain ⟨rest, hcalls, hrest⟩ := activationCalls_eq hh arguments
  -- what comes after the creation has been waiting, and no creation ever waits
  have hnone : (rest.map HandlerCall.event).countP Event.isCreate = 0 := by
    rw [List.countP_eq_zero]
    intro e he
    obtain ⟨c, hc, rfl⟩ := List.mem_map.1 he
    rcases hrest c hc with rfl | ⟨before, hb⟩
    · decide
    · have hmem : c.event ∈ l.waiting := by
        rw [hb]
        exact List.mem_append_right _ List.mem_cons_self
      rw [hplain _ hmem]
      decide
  rw [received_activate, hcalls, List.map_cons, List.countP_append, List.countP_cons, hnone]
  rfl

theorem Replayed.phase_ne {queue : List Event} {d : Delivery Bool} (hr : Replayed l queue d) :
    d.state.phase ≠ .uninitialized := by
  rcases hr.phase with ⟨hp, -⟩ | hp <;> rw [hp] <;> decide

theorem counted_live (hl : l.Counted taken repeated) (hh : l.handlers = some h)
    (hp : l.phase = .active) {e : Event} (he : e.isCreate = false) :
    (l.deliverLive e).state.Counted taken repeated := by
  have hcount : (l.received ++ [e]).countP Event.isCreate = l.received.countP Event.isCreate := by
    simp [he]
  have hactive : l.phase ≠ .uninitialized := by
    rw [hp]
    decide
  have htaken := hl.taken_eq
  have hreceived := hl.received_eq
  simp only [hactive, if_false, false_or] at htaken hreceived
  obtain ⟨text, hd⟩ | ⟨-, b, hd⟩ | ⟨-, b, hd⟩ := deliverLive_cases hh e
  · rw [hd]
    exact ⟨hl.taken_eq, hcount.trans hl.received_eq, hl.noted⟩
  · rw [hd]
    refine ⟨?_, ?_, fun hn => Phase.noConfusion hn⟩
    · exact htaken
    · simpa using hcount.trans hreceived
  · rw [hd]
    exact ⟨hl.taken_eq, hcount.trans hl.received_eq, hl.noted⟩

/-- A creation that comes to handlers: it stays open when they panic on it. -/
theorem counted_creates (hl : l.Counted taken repeated) (hh : l.handlers = some h)
    (hp : l.phase = .uninitialized) (hplain : ∀ e ∈ l.waiting, e.isCreate = false)
    (arguments : List (String × String)) : (l.activate arguments).state.Counted (taken + 1)
      (repeated + (h.respond l.received (.create arguments)).panicked.toNat) := by
  have htaken := hl.taken_eq
  have hreceived := hl.received_eq
  simp only [hp, if_true, true_or] at htaken hreceived
  have hcount := countP_activate hh hplain arguments
  obtain ⟨text, hresp, hd⟩ | ⟨hresp, hr⟩ := activate_cases hh arguments
  · rw [hd] at hcount ⊢
    rw [hresp]
    refine ⟨?_, ?_, hl.noted⟩
    · simp only [hp, if_true, Verdict.panicked, Bool.toNat_true]
      omega
    · simp only [hp, true_or, if_true, Verdict.panicked, Bool.toNat_true] at hcount ⊢
      omega
  · have hnone : (l.activate arguments).state.arguments = none := hr.arguments.trans (hl.noted hp)
    rw [hresp]
    refine ⟨?_, ?_, fun hn => absurd hn hr.phase_ne⟩
    · simp only [hr.phase_ne, if_false, Bool.toNat_false]
      omega
    · simp only [hr.phase_ne, hnone, false_or, Option.isSome_none, Bool.false_eq_true, if_false,
        Bool.toNat_false]
      omega

/-- A creation that has been noted comes to the handlers once, whether they panic on it or not. -/
theorem counted_starts (hl : l.Counted taken repeated) (hplain : ∀ e ∈ l.waiting, e.isCreate = false)
    {arguments : List (String × String)} (ha : l.arguments = some arguments) (h : Handlers) :
    (activate { l with handlers := some h, arguments := none } arguments).state.Counted
      taken repeated := by
  have hp : l.phase ≠ .uninitialized := by
    intro hp
    rw [hl.noted hp] at ha
    cases ha
  have htaken := hl.taken_eq
  have hreceived := hl.received_eq
  simp only [hp, ha, if_false, Option.isSome_some, or_true, if_true] at htaken hreceived
  have hcount := countP_activate (l := { l with handlers := some h, arguments := none })
    rfl hplain arguments
  obtain ⟨text, -, hd⟩ | ⟨-, hr⟩ :=
    activate_cases (l := { l with handlers := some h, arguments := none }) rfl arguments
  · rw [hd] at hcount ⊢
    refine ⟨?_, ?_, fun hn => absurd hn hp⟩
    · simp only [hp, if_false]
      exact htaken
    · simp only [hp, false_or, Option.isSome_none, Bool.false_eq_true, if_false] at hcount ⊢
      omega
  · have hnone := hr.arguments
    refine ⟨?_, ?_, fun hn => absurd hn hr.phase_ne⟩
    · simp only [hr.phase_ne, if_false]
      exact htaken
    · simp only [hr.phase_ne, hnone, false_or, Option.isSome_none, Bool.false_eq_true, if_false]
        at hcount ⊢
      omega

theorem Counted.step (hl : l.Counted taken repeated) (ht : l.Tracks arrived)
    (hc : Course l op l' calls panicked) : l'.Counted (taken + (l.takesCreation op).toNat)
      (repeated + (l.panicsOnCreation op).toNat) := by
  cases hc with
  | refusedHandlers => exact hl
  | refusedCreation arguments hp =>
    rw [takesCreation, panicsOnCreation, deliver_create_refused hp]
    simpa [hp, Ending.failed] using hl
  | dropped e he | waits e he =>
    rw [(takesCreation_event he).1, (takesCreation_event he).2]
    exact ⟨hl.taken_eq, hl.received_eq, hl.noted⟩
  | live e he hp =>
    obtain ⟨h, hh⟩ := Option.isSome_iff_exists.1 (ht.live hp)
    rw [(takesCreation_event he).1, (takesCreation_event he).2]
    exact counted_live hl hh hp he
  | joins h => exact ⟨hl.taken_eq, hl.received_eq, hl.noted⟩
  | created arguments hp hh =>
    have htaken := hl.taken_eq
    have hreceived := hl.received_eq
    simp only [hp, if_true, true_or] at htaken hreceived
    have hquiet : l.panicsOnCreation (.deliver (.create arguments)) = false := by
      rw [panicsOnCreation, hh, Option.any_none, Bool.and_false]
    rw [takesCreation_create hp, hquiet, htaken]
    refine ⟨rfl, ?_, fun hn => Phase.noConfusion hn⟩
    simpa using hreceived
  | creates arguments h hp hh =>
    have hkind : l.panicsOnCreation (.deliver (.create arguments)) =
        (h.respond l.received (.create arguments)).panicked := by
      rw [panicsOnCreation, hh, Option.any_some, decide_eq_true hp, Bool.true_and]
    rw [takesCreation_create hp, hkind]
    exact counted_creates hl hh hp ht.plain arguments
  | starts h arguments _ ha hs =>
    rw [hs]
    exact counted_starts hl ht.plain ha h

/-! ### Runs -/

theorem counted_after (ops : List LifecycleOp) :
    (after ops).Counted (tally takesCreation {} ops) (tally panicsOnCreation {} ops) := by
  induction ops using List.reverseRecOn with
  | nil => exact ⟨rfl, rfl, fun _ => rfl⟩
  | append_singleton ops op ih =>
    rw [after_snoc, tally_snoc, tally_snoc]
    exact ih.step (tracks_after ops) (course _ op)

/-- Any handlers, and any operations one after another. A creation is taken up once, and once more
for each that was delivered to handlers that panicked on it; handlers are called with a creation
just as often, from the time when there are both. No other panic counts. After a creation that was
taken up without such a panic every other one is refused and changes nothing. -/
theorem creation_once_but_for_panics (ops : List LifecycleOp) :
    let l := after ops
    let taken := tally takesCreation {} ops
    let repeated := tally panicsOnCreation {} ops
    (taken = repeated + if l.phase = .uninitialized then 0 else 1) ∧
    (l.received.countP Event.isCreate =
      repeated + if l.phase = .uninitialized ∨ l.arguments.isSome then 0 else 1) ∧
    ∀ again, repeated < taken →
      l.deliver (.create again) = ⟨l, .fails .duplicateInstance, []⟩ := by
  intro l taken repeated
  have hl : l.Counted taken repeated := counted_after ops
  refine ⟨hl.taken_eq, hl.received_eq, fun again hlt => ?_⟩
  apply deliver_create_refused
  intro hp
  have htaken := hl.taken_eq
  rw [if_pos hp] at htaken
  omega

def panicsOnCreate : Handlers where
  respond _ e := match e with
    | .create _ => .panics "handler panic in create"
    | _ => .answers true

/-- Handlers that came first and panic on the creation are called with another one; handlers that
come later are not. -/
theorem creation_once_but_for_panics_late :
    let ops : List LifecycleOp := [.deliver (.create []), .register panicsOnCreate]
    tally panicsOnCreation {} ops < tally takesCreation {} ops ∧
      (after ops).deliver (.create []) = ⟨after ops, .fails .duplicateInstance, []⟩ := by
  intro ops
  have hlt : tally panicsOnCreation {} ops < tally takesCreation {} ops := by decide
  exact ⟨hlt, (creation_once_but_for_panics ops).2.2 [] hlt⟩

/-- A second creation is taken up, and handlers are called with both. -/
theorem creation_twice_after_panic :
    let ops : List LifecycleOp := [.register panicsOnCreate, .deliver (.create []),
      .deliver (.create [])]
    tally takesCreation {} ops = 2 ∧ (after ops).received = [.create [], .create []] := by
  intro ops
  exact ⟨rfl, rfl⟩

end SyscallBridge.Lifecycle
