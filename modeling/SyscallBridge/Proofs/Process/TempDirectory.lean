import SyscallBridge.Proofs.FileSystem.Directories
import SyscallBridge.Proofs.Process.Surroundings

/-!
# The temp directory of the moment

The temp directory need not be made and cannot be removed, wherever it is by now. A link that
stands at it is followed first, as at any other path, and then a call on the temp directory is one
on the path where the links end.
-/

namespace SyscallBridge

namespace Process

/-- A directory that is there and cannot be removed. -/
structure Stays (p : Process) (dir : String) : Prop where
  stat : p.start (.stat dir) = .ok p (.stat .directory)
  rmdir : p.start (.rmdir dir) = .fail p (.invalidState "cannot remove the temp directory")

/-- A directory that no call gets to, since its links go in a circle. -/
structure Circles (p : Process) (dir : String) : Prop where
  stat : p.start (.stat dir) = .fail p (.symlinkCycle dir)
  rmdir : p.start (.rmdir dir) = .fail p (.symlinkCycle dir)

/-- What a call does on a directory whose links end at another path: it is on that path. -/
structure LedTo (p : Process) (dir target : String) : Prop where
  resolve : p.tree.links.resolve dir = .ok target
  elsewhere : target ≠ Path.trim dir
  stat : (p.start (.stat dir)).progress = .done (.ok (.stat .directory)) ↔
    target ∈ p.tree.directories
  rmdir : p.start (.rmdir dir) =
    if target ∈ p.tree.directories then
      .ok { p with tree := { p.tree with directories := p.tree.directories.erase target } } .done
    else .fail p (if Path.isUnder target dir then .notFound target else .unimplemented "rmdir")

variable {p : Process} {dir : String}

theorem start_stat (hdir : p.tmpDir = dir) :
    p.start (.stat dir) = .result p ((p.tree.stat p.store dir dir).map .stat) := by
  rw [← hdir]
  rfl

theorem start_rmdir (hdir : p.tmpDir = dir) :
    p.start (.rmdir dir) = p.onTree (p.tree.removeDirectory dir dir) := by
  rw [← hdir]
  rfl

theorem stays (hdir : p.tmpDir = dir) (hplain : p.tree.links.find? (Path.trim dir) = none) :
    Stays p dir := by
  have hresolve := Links.resolve_unlinked hplain
  constructor
  · rw [start_stat hdir, (FileSystem.stat_directory_iff p.store hresolve).mpr (.inl rfl)]
    rfl
  · rw [start_rmdir hdir, FileSystem.removeDirectory, hresolve]
    simp only [bind, Except.bind, if_pos]
    rfl

theorem circles (hdir : p.tmpDir = dir) {e : CallError}
    (hresolve : p.tree.links.resolve dir = .error e) : Circles p dir := by
  constructor
  · rw [start_stat hdir, FileSystem.stat, hresolve, Links.resolve_error hresolve]
    rfl
  · rw [start_rmdir hdir, FileSystem.removeDirectory, hresolve, Links.resolve_error hresolve]
    rfl

theorem ledTo (hdir : p.tmpDir = dir) {target : String}
    (hresolve : p.tree.links.resolve dir = .ok target) (helse : target ≠ Path.trim dir) :
    LedTo p dir target := by
  refine ⟨hresolve, helse, ?_, ?_⟩
  · have hiff : p.tree.stat p.store dir dir = .ok .directory ↔
        target = Path.trim dir ∨ target ∈ p.tree.directories :=
      FileSystem.stat_directory_iff p.store hresolve
    rw [start_stat hdir]
    constructor
    · intro hprogress
      refine (hiff.mp ?_).resolve_left helse
      cases hstat : p.tree.stat p.store dir dir with
      | error e =>
        rw [hstat] at hprogress
        cases hprogress
      | ok st =>
        rw [hstat] at hprogress
        cases hprogress
        rfl
    · intro hmem
      rw [hiff.mpr (.inr hmem)]
      rfl
  · rw [start_rmdir hdir, FileSystem.removeDirectory_elsewhere hresolve helse]
    split <;> rfl

/-- The temp directory stays while no link stands in its place; a call on it that is led to another
path leaves everything else alone. -/
theorem temp_directory_stays (s : Settings) (events : List ProcessEvent) :
    let p := (create s).run events
    let dir := tmpDirAt s.tmpDir events
    (linkAt (Path.trim dir) events = none → Stays p dir) ∧
    (linkAt (Path.trim dir) events ≠ none → Circles p dir ∨
      ∃ target, linkAt target events = none ∧ LedTo p dir target) := by
  intro p dir
  have hdir : p.tmpDir = dir := tmpDir_at s events
  have hlink : ∀ path, p.tree.links.find? path = linkAt path events := link_at s events
  refine ⟨fun hplain => stays hdir ((hlink _).trans hplain), fun hlinked => ?_⟩
  cases hresolve : p.tree.links.resolve dir with
  | error e => exact .inl (circles hdir hresolve)
  | ok target =>
    -- the walk leaves a path that has a link, and never ends on one
    have hend : linkAt target events = none :=
      (hlink target).symm.trans (Links.resolve_ends hresolve)
    have helse : target ≠ Path.trim dir := by
      rintro rfl
      exact hlinked hend
    exact .inr ⟨target, hend, ledTo hdir hresolve helse⟩

/-- A temp directory set with a slash at its end stays; one that is linked is led to another. -/
theorem temp_directory_stays_where_set :
    let moved : List ProcessEvent := [.call (.symlink "/var/x" "/tmp"),
      .call (.setenv "tmpdir" "/var/x/"), .call (.mkdir "/var/x/d")]
    let linked : List ProcessEvent := [.call (.symlink "/tmp/d" "/tmp"), .call (.mkdir "/tmp/d")]
    (tmpDirAt "/tmp" moved = "/var/x/" ∧ linkAt (Path.trim "/var/x/") moved = none ∧
      Stays ((create {}).run moved) "/var/x/") ∧
    (tmpDirAt "/tmp" linked = "/tmp" ∧ linkAt (Path.trim "/tmp") linked ≠ none ∧
      (Circles ((create {}).run linked) "/tmp" ∨
        ∃ target, linkAt target linked = none ∧ LedTo ((create {}).run linked) "/tmp" target)) := by
  intro moved linked
  have hmoved : linkAt (Path.trim "/var/x/") moved = none := by decide +kernel
  have hlinked : linkAt (Path.trim "/tmp") linked ≠ none := by decide +kernel
  have hset : tmpDirAt "/tmp" moved = "/var/x/" := by decide +kernel
  have hfirst : tmpDirAt "/tmp" linked = "/tmp" := by decide +kernel
  have hstays := temp_directory_stays {} moved
  have hleads := temp_directory_stays {} linked
  rw [show ({} : Settings).tmpDir = "/tmp" from rfl] at hstays hleads
  rw [hset] at hstays
  rw [hfirst] at hleads
  exact ⟨⟨hset, hmoved, hstays.1 hmoved⟩, hfirst, hlinked, hleads.2 hlinked⟩

/-- A link on the temp directory hands the call that should be refused to a directory, which is
removed, and then nothing is found at the temp directory. -/
theorem linked_temp_directory_is_lost :
    let events : List ProcessEvent := [.call (.symlink "/tmp/d" "/tmp"), .call (.mkdir "/tmp/d")]
    let p := (create {}).run events
    tmpDirAt "/tmp" events = "/tmp" ∧
    (p.start (.rmdir "/tmp")).progress.succeeded = true ∧
    "/tmp/d" ∈ p.tree.directories ∧
    "/tmp/d" ∉ (p.next (.call (.rmdir "/tmp"))).tree.directories ∧
    ((p.next (.call (.rmdir "/tmp"))).start (.stat "/tmp")).progress.succeeded = false := by
  decide +kernel

end Process

end SyscallBridge
