import Mathlib.Logic.Relation
import SyscallBridge.FileSystem.Links

/-!
# Where links end

Following links is a walk in a graph in which every path has at most one successor. Such a walk
either comes to a path without a link, and stays there, or comes to a path on a circle, and never
leaves it. The main statement is that `resolve` finds out which, in as many steps as there are links
and one more.
-/

namespace SyscallBridge.Links

variable {links : Links} {path next target other : String} {w w' : Walk}

/-- There is a link at `path`, to `next`. -/
def Next (links : Links) (path next : String) : Prop := links.find? path = some next

/-- Following links from `path` comes to `target`. -/
abbrev Leads (links : Links) : String → String → Prop := Relation.ReflTransGen links.Next

/-- Following links from `path` comes to `target`, and there is no link. -/
def Ends (links : Links) (path target : String) : Prop :=
  links.Leads path target ∧ links.find? target = none

/-- Following links from `path` comes back to it. -/
abbrev Circles (links : Links) (path : String) : Prop := Relation.TransGen links.Next path path

/-! ### Ends and circles -/

theorem next_unique : Relator.RightUnique links.Next := by
  intro path next next' h h'
  exact Option.some.inj (h.symm.trans h')

theorem not_circles_of_end (h : links.find? target = none) : ¬ links.Circles target := by
  intro hcircle
  obtain ⟨next, hnext, -⟩ := Relation.TransGen.head'_iff.mp hcircle
  rw [Next, h] at hnext
  cases hnext

theorem Leads.eq_of_end (h : links.Leads path target) (hend : links.find? path = none) :
    target = path := by
  cases Relation.ReflTransGen.cases_head h with
  | inl heq => exact heq.symm
  | inr hstep =>
    obtain ⟨next, hnext, -⟩ := hstep
    rw [Next, hend] at hnext
    cases hnext

/-- The first step is the same for both, so what follows it lies on the circle too. -/
theorem Leads.circles (h : links.Leads path target) (hcircle : links.Circles path) :
    links.Circles target := by
  induction h with
  | refl => exact hcircle
  | @tail path target _ hnext ih =>
    obtain ⟨next, hfirst, hback⟩ := Relation.TransGen.head'_iff.mp ih
    rw [next_unique hfirst hnext] at hback
    exact Relation.TransGen.tail' hback hnext

theorem ends_of_unlinked (h : links.find? path = none) : links.Ends path path := ⟨.refl, h⟩

theorem Next.ends_iff (h : links.Next path next) :
    links.Ends path target ↔ links.Ends next target := by
  constructor
  · rintro ⟨hleads, hend⟩
    cases Relation.ReflTransGen.cases_head hleads with
    | inl heq =>
      subst heq
      rw [Next, hend] at h
      cases h
    | inr hstep =>
      obtain ⟨first, hfirst, hrest⟩ := hstep
      rw [next_unique hfirst h] at hrest
      exact ⟨hrest, hend⟩
  · rintro ⟨hleads, hend⟩
    exact ⟨.head h hleads, hend⟩

theorem Leads.ends_iff (h : links.Leads path next) :
    links.Ends path target ↔ links.Ends next target := by
  induction h with
  | refl => exact Iff.rfl
  | tail _ hnext ih => exact ih.trans hnext.ends_iff

theorem Ends.unique (h : links.Ends path target) (h' : links.Ends path other) : target = other := by
  have hon : links.Ends target other := (Leads.ends_iff h.1).mp h'
  exact (Leads.eq_of_end hon.1 h.2).symm

theorem Leads.not_ends_of_circles (h : links.Leads path other) (hcircle : links.Circles other) :
    ¬ links.Ends path target := by
  intro hends
  have hon : links.Ends other target := (Leads.ends_iff h).mp hends
  exact not_circles_of_end hon.2 (Leads.circles hon.1 hcircle)

/-! ### One step of a walk -/

theorem step_eq_circle (h : links.step w = .circle) : w.path ∈ w.passed := by
  unfold step at h
  split at h
  · assumption
  · split at h <;> cases h

theorem step_eq_ends (h : links.step w = .ends target) :
    target = w.path ∧ links.find? target = none := by
  unfold step at h
  split at h
  · cases h
  · split at h
    · cases h
    · next hlink =>
      cases h
      exact ⟨rfl, hlink⟩

theorem step_eq_on (h : links.step w = .on w') :
    links.Next w.path w'.path ∧ w'.passed = w.path :: w.passed := by
  unfold step at h
  split at h
  · cases h
  · split at h
    · next next hlink =>
      cases h
      exact ⟨hlink, rfl⟩
    · cases h

/-! ### A whole walk -/

/-- The walk is over after so many steps. It ends at this path, or goes in a circle. -/
inductive Takes (links : Links) : Nat → Walk → Option String → Prop where
  | circle {w : Walk} (last : links.step w = .circle) : Takes links 1 w none
  | ends {w : Walk} {target : String} (last : links.step w = .ends target) :
      Takes links 1 w (some target)
  | on {steps : Nat} {w w' : Walk} {result : Option String} (first : links.step w = .on w')
      (rest : Takes links steps w' result) : Takes links (steps + 1) w result

/-- A walk passes each link ahead of it once at most, and takes one more step at the end. -/
theorem takes_follow (links : Links) (w : Walk) :
    ∃ steps ≤ (links.ahead w).length + 1, links.Takes steps w (links.follow w) := by
  fun_induction follow links w with
  | case1 w w' hstep ih =>
    obtain ⟨steps, hle, hrest⟩ := ih
    have hless := length_ahead_step hstep
    exact ⟨steps + 1, by omega, .on hstep hrest⟩
  | case2 w target hstep => exact ⟨1, by omega, .ends hstep⟩
  | case3 w hstep => exact ⟨1, by omega, .circle hstep⟩

theorem Takes.ends_at {steps : Nat} (h : links.Takes steps w (some target)) :
    links.Ends w.path target := by
  generalize hresult : some target = result at h
  induction h with
  | circle last => cases hresult
  | ends last =>
    cases hresult
    obtain ⟨rfl, hend⟩ := step_eq_ends last
    exact ends_of_unlinked hend
  | on first rest ih => exact (step_eq_on first).1.ends_iff.mpr (ih hresult)

/-- All paths that the walk has passed led to the one it has come to. -/
def Trodden (links : Links) (w : Walk) : Prop :=
  ∀ path ∈ w.passed, Relation.TransGen links.Next path w.path

theorem Trodden.step (h : links.Trodden w) (hstep : links.step w = .on w') :
    links.Trodden w' := by
  obtain ⟨hnext, hpassed⟩ := step_eq_on hstep
  intro path hpath
  rw [hpassed] at hpath
  rcases List.mem_cons.mp hpath with rfl | hpath
  · exact .single hnext
  · exact (h path hpath).tail hnext

theorem Takes.circles {steps : Nat} (h : links.Takes steps w none) (htrodden : links.Trodden w) :
    ∃ path, links.Leads w.path path ∧ links.Circles path := by
  generalize hresult : none = result at h
  induction h with
  | @circle w last => exact ⟨w.path, .refl, htrodden w.path (step_eq_circle last)⟩
  | ends last => cases hresult
  | on first rest ih =>
    obtain ⟨path, hleads, hcircle⟩ := ih (htrodden.step first) hresult
    exact ⟨path, .head (step_eq_on first).1 hleads, hcircle⟩

/-! ### Resolving a path -/

theorem follow_eq_some_iff : links.follow { path } = some target ↔ links.Ends path target := by
  obtain ⟨steps, -, htakes⟩ := takes_follow links { path }
  cases hresult : links.follow { path } with
  | some found =>
    rw [hresult] at htakes
    constructor
    · intro heq
      cases heq
      exact htakes.ends_at
    · intro hends
      rw [htakes.ends_at.unique hends]
  | none =>
    rw [hresult] at htakes
    obtain ⟨other, hleads, hcircle⟩ := htakes.circles fun _ hpassed => by cases hpassed
    exact ⟨nofun, fun hends => absurd hends (Leads.not_ends_of_circles hleads hcircle)⟩

theorem resolve_eq_ok_iff :
    links.resolve path = .ok target ↔ links.Ends (Path.trim path) target := by
  rw [← follow_eq_some_iff, resolve]
  cases links.follow { path := Path.trim path } with
  | some found => exact ⟨fun h => by cases h; rfl, fun h => by cases h; rfl⟩
  | none => exact ⟨nofun, nofun⟩

theorem resolve_error {e : CallError} (h : links.resolve path = .error e) :
    e = .symlinkCycle path := by
  unfold resolve at h
  split at h
  · cases h
  · cases h
    rfl

theorem resolve_eq_error_iff : links.resolve path = .error (.symlinkCycle path) ↔
    ∀ target, ¬ links.Ends (Path.trim path) target := by
  simp only [← resolve_eq_ok_iff]
  cases hresolve : links.resolve path with
  | ok target => exact ⟨nofun, fun h => absurd rfl (h target)⟩
  | error e =>
    rw [resolve_error hresolve]
    exact ⟨fun _ _ => nofun, fun _ => rfl⟩

/-- The walk does not end on a link. -/
theorem resolve_ends (h : links.resolve path = .ok target) : links.find? target = none :=
  (resolve_eq_ok_iff.mp h).2

theorem resolve_ne (hlinked : links.find? (Path.trim path) ≠ none)
    (h : links.resolve path = .ok target) : target ≠ Path.trim path := by
  rintro rfl
  exact hlinked (resolve_ends h)

theorem resolve_unlinked (h : links.find? (Path.trim path) = none) :
    links.resolve path = .ok (Path.trim path) := resolve_eq_ok_iff.mpr (ends_of_unlinked h)

/-- However links are laid, a path is resolved in as many steps as there are links and one more, to
the path without a link that they lead to; it is refused when they lead to none. -/
theorem resolved_where_links_end (links : Links) (path : String) :
    (∃ steps ≤ links.names.length + 1,
      links.Takes steps { path := Path.trim path } (links.resolve path).toOption) ∧
    (∀ target, links.resolve path = .ok target ↔
      links.Leads (Path.trim path) target ∧ links.find? target = none) ∧
    (links.resolve path = .error (.symlinkCycle path) ↔
      ∀ target, links.Leads (Path.trim path) target → links.find? target ≠ none) := by
  refine ⟨?_, fun target => resolve_eq_ok_iff, ?_⟩
  · obtain ⟨steps, hle, htakes⟩ := takes_follow links { path := Path.trim path }
    have hresult : (links.resolve path).toOption = links.follow { path := Path.trim path } := by
      unfold resolve
      split <;> next hfollow => rw [hfollow]; rfl
    have hahead : (links.ahead { path := Path.trim path }).length ≤ links.names.length :=
      List.length_filter_le _ _
    rw [hresult]
    exact ⟨steps, by omega, htakes⟩
  · rw [resolve_eq_error_iff]
    exact ⟨fun h target hleads hend => h target ⟨hleads, hend⟩,
      fun h target hends => h target hends.1 hends.2⟩

end SyscallBridge.Links
