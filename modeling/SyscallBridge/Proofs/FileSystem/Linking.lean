import SyscallBridge.Proofs.FileSystem.Apart
import SyscallBridge.Proofs.FileSystem.Walks

/-!
# Making, removing and reading links

A new link takes its path to where the target leads and leaves alone every walk that does not come
by. What is read from a link is the target without one slash at its end. As a path it loses another
slash, so it leads where the link leads if the target was given with fewer than two.
-/

namespace SyscallBridge

namespace Path

theorem trim_trim {path : String} (h : ∀ rest ≠ "", path ≠ rest ++ "//") :
    trim (trim path) = trim path := by
  unfold trim
  rw [String.toList_ofList]
  congr 1
  by_cases hslash : 1 < path.toList.length ∧ path.toList.getLast? = some '/'
  · obtain ⟨once, honce⟩ := List.getLast?_eq_some_iff.mp hslash.2
    have hfirst : trimChars path.toList = once := by
      rw [trimChars, if_pos hslash, honce, List.dropLast_concat]
    rw [hfirst, trimChars]
    refine if_neg fun hagain => ?_
    -- both slashes are there, and something before them
    obtain ⟨twice, rfl⟩ := List.getLast?_eq_some_iff.mp hagain.2
    refine h (String.ofList twice) ?_ ?_
    · intro hempty
      have hnil : twice = [] := by simpa using congrArg String.toList hempty
      rw [hnil] at hagain
      exact absurd hagain.1 (by decide)
    · apply String.toList_inj.mp
      rw [honce, String.toList_append, String.toList_ofList, List.append_assoc]
      rfl
  · have hfirst : trimChars path.toList = path.toList := if_neg hslash
    rw [hfirst, hfirst]

theorem trim_slash {rest : String} (h : rest ≠ "") : trim (rest ++ "/") = rest := by
  have hlength : 0 < rest.toList.length := by
    rw [List.length_pos_iff]
    exact fun hnil => h (String.toList_inj.mp hnil)
  have hslash : 1 < (rest ++ "/").toList.length ∧ (rest ++ "/").toList.getLast? = some '/' := by
    simp only [String.toList_append]
    exact ⟨by simpa using hlength, by simp⟩
  rw [trim, trimChars, if_pos hslash]
  simp

end Path

namespace Links

variable {links links' : Links} {path other target : String}

/-- Both paths lead to one path without a link, or neither leads to any. -/
def Meet (links : Links) (path other : String) : Prop :=
  (∃ target, links.resolve path = .ok target ∧ links.resolve other = .ok target) ∨
  (links.resolve path = .error (.symlinkCycle path) ∧
    links.resolve other = .error (.symlinkCycle other))

theorem meet_of_ends_iff
    (h : ∀ target, links.Ends (Path.trim path) target ↔ links.Ends (Path.trim other) target) :
    links.Meet path other := by
  cases hresolve : links.resolve path with
  | ok target =>
    have hends : links.Ends (Path.trim other) target :=
      (h target).mp (resolve_eq_ok_iff.mp hresolve)
    exact .inl ⟨target, hresolve, resolve_eq_ok_iff.mpr hends⟩
  | error e =>
    rw [resolve_error hresolve] at hresolve
    refine .inr ⟨hresolve, resolve_eq_error_iff.mpr fun target hends => ?_⟩
    exact resolve_eq_error_iff.mp hresolve target ((h target).mpr hends)

/-- A link leads where its target leads. -/
theorem meet_of_link (h : links.find? (Path.trim path) = some (Path.trim other)) :
    links.Meet path other := meet_of_ends_iff fun _ => Next.ends_iff h

/-- Only the links that a walk comes by matter for it. -/
theorem leads_congr (h : ∀ via, links.Leads path via → links'.find? via = links.find? via) :
    links'.Leads path target ↔ links.Leads path target := by
  constructor
  · intro hleads
    induction hleads with
    | refl => exact .refl
    | @tail via target _ hnext ih =>
      rw [Next, h via ih] at hnext
      exact ih.tail hnext
  · intro hleads
    induction hleads with
    | refl => exact .refl
    | @tail via target hto hnext ih =>
      rw [Next, ← h via hto] at hnext
      exact ih.tail hnext

theorem resolve_congr
    (h : ∀ via, links.Leads (Path.trim path) via → links'.find? via = links.find? via) :
    links'.resolve path = links.resolve path := by
  have hends : ∀ target,
      links'.Ends (Path.trim path) target ↔ links.Ends (Path.trim path) target := by
    intro target
    rw [Ends, leads_congr h, Ends]
    exact and_congr_right fun hleads => by rw [h target hleads]
  cases hresolve : links.resolve path with
  | ok target => exact resolve_eq_ok_iff.mpr ((hends target).mpr (resolve_eq_ok_iff.mp hresolve))
  | error e =>
    have hcycle := resolve_error hresolve
    subst hcycle
    refine resolve_eq_error_iff.mpr fun target htarget => ?_
    exact resolve_eq_error_iff.mp hresolve target ((hends target).mp htarget)

end Links

/-! ### A link that is made -/

namespace FileSystem

/-- A new link leads where its target leads, also when it closes a circle. Paths whose walk does not
come by lead where they led, before as after, and all do once a link at a free path is removed. -/
theorem made_link_joins_and_comes_off (t : FileSystem) (target path : String) :
    let linked := t.symlink target path
    linked.links.Meet path target ∧
    (∀ other, ¬ t.links.Leads (Path.trim other) (Path.trim path) ∨
        ¬ linked.links.Leads (Path.trim other) (Path.trim path) →
      linked.links.resolve other = t.links.resolve other) ∧
    (t.links.find? (Path.trim path) = none → ∃ cleared, linked.unlink path = .ok cleared ∧
      ∀ other, cleared.links.resolve other = t.links.resolve other) := by
  intro linked
  have hfind : ∀ via, linked.links.find? via =
      if via = Path.trim path then some (Path.trim target) else t.links.find? via :=
    fun via => Assoc.find?_insert _ _ _ _
  have hmade : linked.links.find? (Path.trim path) = some (Path.trim target) := by
    rw [hfind, if_pos rfl]
  have hkept : ∀ via, via ≠ Path.trim path → linked.links.find? via = t.links.find? via :=
    fun via hne => by rw [hfind, if_neg hne]
  refine ⟨Links.meet_of_link hmade, fun other hpast => ?_, fun hfree => ?_⟩
  · rcases hpast with hbefore | hafter
    · refine Links.resolve_congr fun via hleads => hkept via ?_
      rintro rfl
      exact hbefore hleads
    · refine (Links.resolve_congr fun via hleads => (hkept via ?_).symm).symm
      rintro rfl
      exact hafter hleads
  · have hlink : linked.links.contains (Path.trim path) = true := by
      rw [Assoc.contains, hmade]
      rfl
    refine ⟨_, if_pos hlink, fun other => Links.resolve_congr fun via _ => ?_⟩
    rw [Assoc.find?_erase]
    by_cases heq : via = Path.trim path
    · rw [if_pos heq, heq, hfree]
    · rw [if_neg heq, hkept via heq]

theorem made_link_joins_and_comes_off_in_chain :
    let t := ((create ["/tmp"] 7).symlink "/b" "/c").symlink "/x" "/y"
    let linked := t.symlink "/a/" "/b/"
    linked.links.Meet "/b/" "/a/" ∧ linked.links.resolve "/c" = .ok "/a" ∧
    (¬ t.links.Leads (Path.trim "/y") (Path.trim "/b/") ∧
      linked.links.resolve "/y" = t.links.resolve "/y") ∧
    (t.links.find? (Path.trim "/b/") = none ∧ ∃ cleared, linked.unlink "/b/" = .ok cleared ∧
      cleared.links.resolve "/c" = t.links.resolve "/c") := by
  intro t linked
  have hall := made_link_joins_and_comes_off t "/a/" "/b/"
  have hfree : t.links.find? (Path.trim "/b/") = none := by decide +kernel
  have hpast : ¬ t.links.Leads (Path.trim "/y") (Path.trim "/b/") := by
    intro hleads
    have hend : t.links.Ends (Path.trim "/y") "/x" := Links.resolve_eq_ok_iff.mp rfl
    have hsame := Links.Ends.unique ((Links.Leads.ends_iff hleads).mp hend)
      (Links.ends_of_unlinked hfree)
    exact absurd hsame (by decide +kernel)
  obtain ⟨cleared, hcleared, hback⟩ := hall.2.2 hfree
  exact ⟨hall.1, rfl, ⟨hpast, hall.2.1 "/y" (.inl hpast)⟩, hfree, cleared, hcleared, hback "/c"⟩

end FileSystem

/-! ### Links under calls -/

/-- The link at a trimmed path after a call, from the one before it. -/
def TreeCall.linkAfter (path : String) (link : Option String) : TreeCall → Option String
  | symlink target given => if Path.trim given = path then some (Path.trim target) else link
  | unlink given => if Path.trim given = path then none else link
  | _ => link

/-- The path that the link at a trimmed path is made to after a call, in the words of the call. -/
def TreeCall.madeToAfter (path : String) (made : Option String) : TreeCall → Option String
  | symlink target given => if Path.trim given = path then some target else made
  | unlink given => if Path.trim given = path then none else made
  | _ => made

/-- The path that the latest link at a trimmed path was made to, if it has not been removed. -/
def madeTo (path : String) (calls : List (String × TreeCall)) : Option String :=
  calls.foldl (fun made call => call.2.madeToAfter path made) none

theorem TreeCall.linkAfter_map (path : String) (made : Option String) (c : TreeCall) :
    c.linkAfter path (made.map Path.trim) = (c.madeToAfter path made).map Path.trim := by
  cases c with
  | symlink target given =>
    dsimp only [linkAfter, madeToAfter]
    rw [apply_ite (Option.map Path.trim), Option.map_some]
  | unlink given =>
    dsimp only [linkAfter, madeToAfter]
    rw [apply_ite (Option.map Path.trim), Option.map_none]
  | open_ | mkdir | rmdir => rfl

namespace FileSystem

theorem find?_links_perform (t : FileSystem) (store : FileStore) (tmpDir : String)
    (c : TreeCall) (path : String) :
    (t.perform store tmpDir c).1.links.find? path = c.linkAfter path (t.links.find? path) := by
  have hkept : c.onLinks = false → (t.perform store tmpDir c).1.links = t.links :=
    fun h => (move_perform t store tmpDir h).links_eq
  cases c with
  | symlink target given =>
    simp only [perform, symlink, TreeCall.linkAfter, Assoc.find?_insert, eq_comm]
  | unlink given =>
    obtain ⟨links, hlinks, hfind⟩ := settle_unlink t given
    simp only [perform, hlinks, hfind, TreeCall.linkAfter, eq_comm]
  | open_ | mkdir | rmdir => exact congrArg (Assoc.find? · path) (hkept rfl)

theorem find?_links_performAll {t : FileSystem} {path : String} (made : Option String)
    (h : t.links.find? path = made.map Path.trim) (store : FileStore)
    (calls : List (String × TreeCall)) :
    (t.performAll store calls).1.links.find? path =
      (calls.foldl (fun made call => call.2.madeToAfter path made) made).map Path.trim := by
  induction calls generalizing t store made with
  | nil => exact h
  | cons call calls ih =>
    have hcall : (t.perform store call.1 call.2).1.links.find? path =
        (call.2.madeToAfter path made).map Path.trim := by
      rw [find?_links_perform, h, TreeCall.linkAfter_map]
    exact ih _ hcall (t.perform store call.1 call.2).2

theorem readLink_eq_ok {t : FileSystem} {link target : String} (h : t.readLink link = .ok target) :
    t.links.find? (Path.trim link) = some target := by
  unfold readLink at h
  split at h
  · cases h
    assumption
  · cases h

/-- Paths that lead to one place are opened as one file. -/
theorem open_of_meet {t : FileSystem} {path other tmpDir : String} (h : t.links.Meet path other)
    (store : FileStore) (flags : OpenFlags) (opened : OpenFile × FileSystem × FileStore) :
    t.open_ store path flags tmpDir = .ok opened ↔
      t.open_ store other flags tmpDir = .ok opened := by
  unfold open_
  rcases h with ⟨target, hpath, hother⟩ | ⟨hpath, hother⟩
  · rw [hpath, hother]
    simp only [bind, Except.bind]
    split
    · exact Iff.rfl
    · split
      · exact Iff.rfl
      · exact ⟨nofun, nofun⟩
  · rw [hpath, hother]
    exact ⟨nofun, nofun⟩

/-- A link leads where the path leads that it was made to. So does the path that is read from it,
unless there were two slashes at its end: both are gone by then. -/
theorem read_link_leads_on (knownDirs : List String) (seed : UInt64) (store : FileStore)
    (calls : List (String × TreeCall)) (link target : String) :
    let t := ((create knownDirs seed).performAll store calls).1
    t.readLink link = .ok target →
    ∃ given, madeTo (Path.trim link) calls = some given ∧ target = Path.trim given ∧
      t.links.Meet link given ∧
      ((∀ rest ≠ "", given ≠ rest ++ "//") → t.links.Meet link target ∧
        ∀ store flags tmpDir opened, t.open_ store link flags tmpDir = .ok opened ↔
          t.open_ store target flags tmpDir = .ok opened) ∧
      (∀ rest ≠ "", given = rest ++ "//" → target = rest ++ "/" ∧
        ∀ last, t.links.resolve target = .ok last ↔ t.links.Ends rest last) := by
  intro t hread
  have hlink : t.links.find? (Path.trim link) = some target := readLink_eq_ok hread
  have hmade : t.links.find? (Path.trim link) =
      (madeTo (Path.trim link) calls).map Path.trim :=
    find?_links_performAll none rfl store calls
  obtain ⟨given, hgiven, rfl⟩ := Option.map_eq_some_iff.mp (hmade.symm.trans hlink)
  refine ⟨given, hgiven, rfl, Links.meet_of_link hlink, fun hfew => ?_, fun rest hrest htwo => ?_⟩
  · have hmeet : t.links.Meet link (Path.trim given) := by
      refine Links.meet_of_link ?_
      rw [Path.trim_trim hfew]
      exact hlink
    exact ⟨hmeet, fun store flags tmpDir opened => open_of_meet hmeet store flags opened⟩
  · have htrim : Path.trim given = rest ++ "/" := by
      have hone : rest ++ "/" ≠ "" := fun h => hrest (by simpa using congrArg String.toList h)
      rw [htwo, ← Path.trim_slash hone, String.append_assoc]
      rfl
    refine ⟨htrim, fun last => ?_⟩
    rw [Links.resolve_eq_ok_iff, htrim, Path.trim_slash hrest]

theorem read_link_leads_on_through_chain :
    let calls : List (String × TreeCall) := [("/tmp", .open_ "/tmp/a" .writeOnly),
      ("/tmp", .symlink "/tmp/a/" "/tmp/b"), ("/var", .symlink "/tmp/b" "/tmp/c/")]
    let t := ((create ["/tmp"] 7).performAll {} calls).1
    t.readLink "/tmp/c" = .ok "/tmp/b" ∧ t.links.Meet "/tmp/c" "/tmp/b" ∧
      t.links.resolve "/tmp/b" = .ok "/tmp/a" := by
  intro calls t
  have hread : t.readLink "/tmp/c" = .ok "/tmp/b" := by rfl
  obtain ⟨given, hgiven, -, -, hfew, -⟩ :=
    read_link_leads_on ["/tmp"] 7 {} calls "/tmp/c" "/tmp/b" hread
  have hmade : madeTo (Path.trim "/tmp/c") calls = some "/tmp/b" := by decide +kernel
  cases hmade.symm.trans hgiven
  have hend : ∀ rest ≠ "", "/tmp/b" ≠ rest ++ "//" := by
    intro rest _ heq
    have hlast := congrArg (fun s => s.toList.getLast?) heq
    simp at hlast
  exact ⟨hread, (hfew hend).1, by rfl⟩

/-- What is read from a link to a path with two slashes at its end leads elsewhere. -/
theorem read_link_misleads :
    let calls : List (String × TreeCall) := [("/tmp", .symlink "/tmp/a//" "/tmp/l")]
    let t := ((create ["/tmp"] 7).performAll {} calls).1
    t.readLink "/tmp/l" = .ok "/tmp/a/" ∧ t.links.resolve "/tmp/l" = .ok "/tmp/a/" ∧
      t.links.resolve "/tmp/a/" = .ok "/tmp/a" := by
  exact ⟨rfl, rfl, rfl⟩

end FileSystem

end SyscallBridge
