import SyscallBridge.Proofs.FileSystem.Apart
import SyscallBridge.Proofs.FileSystem.Walks

/-!
# Making and removing directories

A directory is made at the path itself, while `stat` and `rmdir` first follow the links. Where no
link stands the three mean the same entry, and removing what has just been made undoes it. At a link
the directory is made all the same, and the other two calls go on as if it had not been.
-/

namespace SyscallBridge

namespace FileSystem

variable {t t' : FileSystem} {tmpDir path target : String}

theorem stat_directory_iff (store : FileStore) (h : t.links.resolve path = .ok target) :
    t.stat store path tmpDir = .ok .directory ↔
      target = Path.trim tmpDir ∨ target ∈ t.directories := by
  unfold stat
  rw [h]
  simp only [bind, Except.bind]
  by_cases hdir : target = Path.trim tmpDir ∨ target ∈ t.directories
  · rw [if_pos hdir]
    exact ⟨fun _ => hdir, fun _ => rfl⟩
  · rw [if_neg hdir]
    refine ⟨fun hstat => ?_, fun hd => absurd hd hdir⟩
    split at hstat
    · cases hstat
    · split at hstat
      · next s hdevice =>
        cases hstat
        obtain ⟨d, -, hd⟩ := Option.map_eq_some_iff.mp hdevice
        cases d <;> cases hd
      · split at hstat
        · cases hstat
        · cases hstat

/-- What removing a directory other than the temp directory comes to. -/
theorem removeDirectory_elsewhere (h : t.links.resolve path = .ok target)
    (hne : target ≠ Path.trim tmpDir) :
    t.removeDirectory path tmpDir =
      if target ∈ t.directories then .ok { t with directories := t.directories.erase target }
      else .error
        (if Path.isUnder target tmpDir then .notFound target else .unimplemented "rmdir") := by
  unfold removeDirectory
  rw [h]
  simp only [bind, Except.bind, if_neg hne]
  by_cases hmem : target ∈ t.directories
  · rw [if_pos hmem, if_pos hmem]
  · rw [if_neg hmem, if_neg hmem]
    split <;> rfl

namespace Made

theorem mem (h : Made t path tmpDir t') : Path.trim path ∈ t'.directories := by
  rw [h.result]
  exact List.mem_cons_self

theorem links_eq (h : Made t path tmpDir t') : t'.links = t.links := by rw [h.result]

theorem makeDirectory_again (h : Made t path tmpDir t') :
    t'.makeDirectory path tmpDir = .error (.alreadyExists (Path.trim path)) := by
  have hthere : ¬ ((!Path.isUnder (Path.trim path) tmpDir) = true ∧
      Path.trim path ∉ t'.directories) := fun hout => hout.2 h.mem
  rw [makeDirectory, if_neg h.elsewhere, if_neg hthere, if_pos (.inr h.mem)]

/-! Where no link stands -/

theorem resolve (h : Made t path tmpDir t') (hplain : t.links.find? (Path.trim path) = none) :
    t'.links.resolve path = .ok (Path.trim path) := by
  rw [h.links_eq]
  exact Links.resolve_unlinked hplain

theorem stat (h : Made t path tmpDir t') (hplain : t.links.find? (Path.trim path) = none)
    (store : FileStore) : t'.stat store path tmpDir = .ok .directory :=
  (stat_directory_iff store (h.resolve hplain)).mpr (.inr h.mem)

theorem removeDirectory (h : Made t path tmpDir t')
    (hplain : t.links.find? (Path.trim path) = none) : t'.removeDirectory path tmpDir = .ok t := by
  rw [removeDirectory_elsewhere (h.resolve hplain) h.elsewhere, if_pos h.mem, h.result]
  simp only [List.erase_cons_head]

/-! Where a link stands -/

theorem mem_iff (h : Made t path tmpDir t') (hne : target ≠ Path.trim path) :
    target ∈ t'.directories ↔ target ∈ t.directories := by
  rw [h.result]
  exact List.mem_cons.trans (or_iff_right hne)

theorem stat_linked (h : Made t path tmpDir t') (hlinked : t.links.find? (Path.trim path) ≠ none)
    (store : FileStore) : t'.stat store path tmpDir = t.stat store path tmpDir := by
  unfold FileSystem.stat
  rw [h.links_eq]
  cases hresolve : t.links.resolve path with
  | error e => rfl
  | ok target =>
    have hmem := h.mem_iff (Links.resolve_ne hlinked hresolve)
    have htemps : t'.temps = t.temps := by rw [h.result]
    simp only [bind, Except.bind, hmem, htemps]

theorem removeDirectory_linked (h : Made t path tmpDir t')
    (hlinked : t.links.find? (Path.trim path) ≠ none) :
    t'.removeDirectory path tmpDir = (t.removeDirectory path tmpDir).map fun u =>
      { u with directories := Path.trim path :: u.directories } := by
  cases hresolve : t.links.resolve path with
  | error e =>
    unfold FileSystem.removeDirectory
    rw [h.links_eq, hresolve]
    rfl
  | ok target =>
    have hresolve' : t'.links.resolve path = .ok target := by rw [h.links_eq, hresolve]
    by_cases htmp : target = Path.trim tmpDir
    · unfold FileSystem.removeDirectory
      rw [hresolve, hresolve']
      simp only [bind, Except.bind, if_pos htmp]
      rfl
    · have hne := Links.resolve_ne hlinked hresolve
      rw [removeDirectory_elsewhere hresolve htmp, removeDirectory_elsewhere hresolve' htmp]
      by_cases hmem : target ∈ t.directories
      · rw [if_pos hmem, if_pos ((h.mem_iff hne).mpr hmem), h.result]
        have herase : (Path.trim path :: t.directories).erase target =
            Path.trim path :: t.directories.erase target :=
          List.erase_cons_tail (by simpa using hne.symm)
        simp only [herase, Except.map]
      · rw [if_neg hmem, if_neg fun hmem' => hmem ((h.mem_iff hne).mp hmem')]
        rfl

theorem not_undone (h : Made t path tmpDir t') (hlinked : t.links.find? (Path.trim path) ≠ none) :
    t'.removeDirectory path tmpDir ≠ .ok t := by
  rw [h.removeDirectory_linked hlinked]
  cases t.removeDirectory path tmpDir with
  | error e => exact nofun
  | ok u =>
    intro heq
    -- the new directory would have been there before
    have hdirectories := congrArg directories (Except.ok.inj heq)
    exact h.new (hdirectories ▸ List.mem_cons_self)

end Made

/-- A directory that is made is not made twice. Where no link stands at its path it is found there,
and removing it leaves everything as it was. Where a link stands neither call comes to it: they tell
and do the same with the new directory as without, so that it is never removed. -/
theorem made_directory_found_and_removed (t t' : FileSystem) (store : FileStore)
    (path tmpDir : String) (h : t.makeDirectory path tmpDir = .ok t') :
    t'.makeDirectory path tmpDir = .error (.alreadyExists (Path.trim path)) ∧
    (t.links.find? (Path.trim path) = none →
      t'.stat store path tmpDir = .ok .directory ∧ t'.removeDirectory path tmpDir = .ok t) ∧
    (t.links.find? (Path.trim path) ≠ none →
      t'.stat store path tmpDir = t.stat store path tmpDir ∧
      t'.removeDirectory path tmpDir = ((t.removeDirectory path tmpDir).map fun u =>
        { u with directories := Path.trim path :: u.directories }) ∧
      t'.removeDirectory path tmpDir ≠ .ok t) := by
  have hmade : Made t path tmpDir t' := made h
  refine ⟨hmade.makeDirectory_again, fun hplain => ?_, fun hlinked => ?_⟩
  · exact ⟨hmade.stat hplain store, hmade.removeDirectory hplain⟩
  · exact ⟨hmade.stat_linked hlinked store, hmade.removeDirectory_linked hlinked,
      hmade.not_undone hlinked⟩

theorem made_directory_found_and_removed_beside_link :
    let t := (create ["/tmp", "/tmp/a"] 7).symlink "/tmp/a" "/tmp/l"
    let plain := { t with directories := "/tmp/d" :: t.directories }
    let linked := { t with directories := "/tmp/l" :: t.directories }
    (t.makeDirectory "/tmp/d/" "/tmp" = .ok plain ∧
      plain.stat {} "/tmp/d/" "/tmp" = .ok .directory ∧
      plain.removeDirectory "/tmp/d/" "/tmp" = .ok t) ∧
    (t.makeDirectory "/tmp/l" "/tmp" = .ok linked ∧
      linked.stat {} "/tmp/l" "/tmp" = t.stat {} "/tmp/l" "/tmp" ∧
      linked.removeDirectory "/tmp/l" "/tmp" =
        .ok { t with directories := ["/tmp/l", "/tmp"] }) := by
  intro t plain linked
  have hplain : t.makeDirectory "/tmp/d/" "/tmp" = .ok plain := rfl
  have hlinked : t.makeDirectory "/tmp/l" "/tmp" = .ok linked := rfl
  have hfree : t.links.find? (Path.trim "/tmp/d/") = none := by decide +kernel
  have htaken : t.links.find? (Path.trim "/tmp/l") ≠ none := by decide +kernel
  have hmade := made_directory_found_and_removed t plain {} "/tmp/d/" "/tmp" hplain
  have hhidden := made_directory_found_and_removed t linked {} "/tmp/l" "/tmp" hlinked
  have hremoved : t.removeDirectory "/tmp/l" "/tmp" = .ok { t with directories := ["/tmp"] } := rfl
  refine ⟨⟨hplain, hmade.2.1 hfree⟩, hlinked, (hhidden.2.2 htaken).1, ?_⟩
  rw [(hhidden.2.2 htaken).2.1, hremoved]
  rfl

/-- A directory made where a link stands is not found and cannot be removed. -/
theorem made_directory_lost_behind_link :
    let t := (create ["/tmp"] 7).symlink "/tmp/a" "/tmp/d"
    let made := { t with directories := "/tmp/d" :: t.directories }
    t.makeDirectory "/tmp/d" "/tmp" = .ok made ∧
    made.stat {} "/tmp/d" "/tmp" = .error (.notFound "/tmp/a") ∧
    made.removeDirectory "/tmp/d" "/tmp" = .error (.notFound "/tmp/a") := by
  exact ⟨rfl, rfl, rfl⟩

end FileSystem

end SyscallBridge
