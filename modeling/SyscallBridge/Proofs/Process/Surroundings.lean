import SyscallBridge.Proofs.FileSystem.Linking
import SyscallBridge.Proofs.Process.Parts

/-!
# The file system and the environment under system calls

Only calls on the file system change it, each as it would on its own, and only `setenv` and
`unsetenv` change the environment. So where a path leads, and where the temp directory is, can be
read off the calls that came before.
-/

namespace SyscallBridge

namespace ProcessEvent

/-- The call on the file system that an event is. -/
def treeCall? : ProcessEvent → Option TreeCall
  | .call (.open_ path flags) => some (.open_ path flags)
  | .call (.mkdir path) => some (.mkdir path)
  | .call (.rmdir path) => some (.rmdir path)
  | .call (.symlink target path) => some (.symlink target path)
  | .call (.unlink path) => some (.unlink path)
  | _ => none

/-- The value of `TMPDIR` after an event, from the value before it. -/
def tmpDirAfter (dir : Option String) : ProcessEvent → Option String
  | .call (.setenv key value) =>
    if key = "" ∨ '=' ∈ key.toList then dir
    else if uppercase key = Environment.tmpKey then some value else dir
  | .call (.unsetenv key) => if uppercase key = Environment.tmpKey then none else dir
  | _ => dir

/-- The link at a trimmed path after an event, from the one before it. -/
def linkAfter (path : String) (link : Option String) (e : ProcessEvent) : Option String :=
  match e.treeCall? with
  | some c => c.linkAfter path link
  | none => link

end ProcessEvent

/-- The temp directory after some events: what `TMPDIR` was last set to, or the configured one. -/
def tmpDirAt (configured : String) (events : List ProcessEvent) : String :=
  (events.foldl ProcessEvent.tmpDirAfter (some configured)).getD configured

/-- Where the latest link at a trimmed path leads, unless it has been removed since. -/
def linkAt (path : String) (events : List ProcessEvent) : Option String :=
  events.foldl (ProcessEvent.linkAfter path) none

/-- The temp directory stays where it is while no event sets `TMPDIR`. -/
theorem tmpDirAt_of_unset (configured : String) {events : List ProcessEvent}
    (h : ∀ e ∈ events, ∀ dir, e.tmpDirAfter dir = dir) :
    tmpDirAt configured events = configured := by
  have hfold : ∀ dir, events.foldl ProcessEvent.tmpDirAfter dir = dir := by
    induction events with
    | nil => exact fun _ => rfl
    | cons e events ih =>
      intro dir
      rw [List.foldl_cons, h e List.mem_cons_self]
      exact ih (fun other ho => h other (List.mem_cons_of_mem e ho)) dir
  rw [tmpDirAt, hfold]
  rfl

namespace Process

/-! ### Calls that leave the surroundings as they are -/

structure Undisturbed (p p' : Process) : Prop where
  tree : p'.tree = p.tree
  environment : p'.environment = p.environment
  settings : p'.settings = p.settings

namespace Undisturbed

variable {p p' p'' : Process}

theorem refl (p : Process) : Undisturbed p p := ⟨rfl, rfl, rfl⟩

theorem trans (h : Undisturbed p p') (h' : Undisturbed p' p'') : Undisturbed p p'' :=
  ⟨h'.tree.trans h.tree, h'.environment.trans h.environment, h'.settings.trans h.settings⟩

theorem parts (hp : Parts p p') : Undisturbed p p' := by
  induction hp with
  | refl => exact refl p
  | tail _ part ih =>
    refine ih.trans ?_
    cases part with
    | opens s => exact ⟨rfl, rfl, rfl⟩
    | turns file s _ => exact ⟨rfl, rfl, rfl⟩
    | @drops table shut _ _ => cases shut <;> exact ⟨rfl, rfl, rfl⟩

theorem startOnFile (fd : Nat) (c : FileCall) : Undisturbed p (p.startOnFile fd c).state := by
  unfold Process.startOnFile
  split
  · exact refl p
  · exact ⟨rfl, rfl, rfl⟩

end Undisturbed

/-- What an event does to the file system and to the environment. -/
structure Surrounds (p : Process) (e : ProcessEvent) (p' : Process) : Prop where
  tree : p'.tree = match e.treeCall? with
    | some c => (p.tree.perform p.store p.tmpDir c).1
    | none => p.tree
  tmpDir? : p'.environment.tmpDir? = e.tmpDirAfter p.environment.tmpDir?
  settings : p'.settings = p.settings

variable {p : Process}

theorem Undisturbed.surrounds {p' : Process} (h : Undisturbed p p') {e : ProcessEvent}
    (hcall : e.treeCall? = none) (hdir : ∀ dir, e.tmpDirAfter dir = dir) : Surrounds p e p' where
  tree := by
    rw [hcall]
    exact h.tree
  tmpDir? := by rw [h.environment, hdir]
  settings := h.settings

theorem surrounds_open (path : String) (flags : OpenFlags) :
    Surrounds p (.call (.open_ path flags)) (p.startOpen path flags).state := by
  unfold startOpen
  constructor
  · simp only [ProcessEvent.treeCall?, FileSystem.perform]
    split <;> next hopen => rw [hopen]; rfl
  · split <;> rfl
  · split <;> rfl

theorem onTree_tree (p : Process) (r : Except CallError FileSystem) :
    (p.onTree r).state.tree = p.tree.settle r := by cases r <;> rfl

theorem surrounds_onTree {c : Syscall} {r : Except CallError FileSystem}
    (htree : (ProcessEvent.call c).treeCall?.map (fun c => (p.tree.perform p.store p.tmpDir c).1) =
      some (p.tree.settle r))
    (hdir : ∀ dir, (ProcessEvent.call c).tmpDirAfter dir = dir) :
    Surrounds p (.call c) (p.onTree r).state := by
  obtain ⟨call, hcall, hsettle⟩ := Option.map_eq_some_iff.mp htree
  constructor
  · rw [hcall, onTree_tree]
    exact hsettle.symm
  · rw [hdir]
    cases r <;> rfl
  · cases r <;> rfl

theorem surrounds_setenv (key value : String) :
    Surrounds p (.call (.setenv key value)) (p.startSetenv key value).state := by
  unfold startSetenv
  by_cases hkey : key = "" ∨ '=' ∈ key.toList
  · rw [if_pos hkey]
    exact ⟨rfl, by simp only [ProcessEvent.tmpDirAfter, if_pos hkey]; rfl, rfl⟩
  · rw [if_neg hkey]
    refine ⟨rfl, ?_, rfl⟩
    simp only [ProcessEvent.tmpDirAfter, if_neg hkey]
    change (p.environment.vars.insert (uppercase key) value).find? Environment.tmpKey = _
    rw [Assoc.find?_insert]
    by_cases heq : uppercase key = Environment.tmpKey
    · rw [if_pos heq.symm, if_pos heq]
    · rw [if_neg fun h => heq h.symm, if_neg heq]
      rfl

theorem surrounds_unsetenv (key : String) :
    Surrounds p (.call (.unsetenv key)) (p.start (.unsetenv key)).state := by
  refine ⟨rfl, ?_, rfl⟩
  change (p.environment.vars.erase (uppercase key)).find? Environment.tmpKey = _
  rw [Assoc.find?_erase]
  simp only [ProcessEvent.tmpDirAfter]
  by_cases heq : uppercase key = Environment.tmpKey
  · rw [if_pos heq.symm, if_pos heq]
  · rw [if_neg fun h => heq h.symm, if_neg heq]
    rfl

theorem surrounds_next (p : Process) (e : ProcessEvent) : Surrounds p e (p.next e) := by
  cases e with
  | answer q a => exact (Undisturbed.parts (parts_resume p q a)).surrounds rfl fun _ => rfl
  | call c =>
    cases c with
    | open_ path flags => exact surrounds_open path flags
    | onFile fd c => exact (Undisturbed.startOnFile fd c).surrounds rfl fun _ => rfl
    | mkdir path => exact surrounds_onTree rfl fun _ => rfl
    | rmdir path => exact surrounds_onTree rfl fun _ => rfl
    | unlink path => exact surrounds_onTree rfl fun _ => rfl
    | symlink target path => exact ⟨rfl, rfl, rfl⟩
    | setenv key value => exact surrounds_setenv key value
    | unsetenv key => exact surrounds_unsetenv key
    | close | dup | dup2 | socket | onSocket | resolve | dial | fsync | stat | readlink | getenv
    | environ | getpid | missing =>
      exact (Undisturbed.parts (parts_start p rfl)).surrounds rfl fun _ => rfl

/-! ### Runs -/

theorem treeStep_next (p : Process) (e : ProcessEvent) :
    TreeStep p.tmpDir p.tree (p.next e).tree := by
  rw [(surrounds_next p e).tree]
  cases e.treeCall? with
  | none => exact .moved .nothing
  | some c => exact FileSystem.step_perform p.tree p.store p.tmpDir c

theorem find?_links_next (p : Process) (e : ProcessEvent) (path : String) :
    (p.next e).tree.links.find? path = e.linkAfter path (p.tree.links.find? path) := by
  rw [(surrounds_next p e).tree, ProcessEvent.linkAfter]
  cases e.treeCall? with
  | none => rfl
  | some c => exact FileSystem.find?_links_perform p.tree p.store p.tmpDir c path

theorem find?_links_run (p : Process) (events : List ProcessEvent) (path : String) :
    (p.run events).tree.links.find? path =
      events.foldl (ProcessEvent.linkAfter path) (p.tree.links.find? path) := by
  induction events generalizing p with
  | nil => rfl
  | cons e events ih =>
    rw [run_cons, ih, find?_links_next]
    rfl

theorem settings_run (p : Process) (events : List ProcessEvent) :
    (p.run events).settings = p.settings := by
  induction events generalizing p with
  | nil => rfl
  | cons e events ih => rw [run_cons, ih, (surrounds_next p e).settings]

theorem tmpDir?_run (p : Process) (events : List ProcessEvent) :
    (p.run events).environment.tmpDir? =
      events.foldl ProcessEvent.tmpDirAfter p.environment.tmpDir? := by
  induction events generalizing p with
  | nil => rfl
  | cons e events ih =>
    rw [run_cons, ih, (surrounds_next p e).tmpDir?]
    rfl

theorem link_at (s : Settings) (events : List ProcessEvent) (path : String) :
    ((create s).run events).tree.links.find? path = linkAt path events :=
  find?_links_run (create s) events path

theorem tmpDir_at (s : Settings) (events : List ProcessEvent) :
    ((create s).run events).tmpDir = tmpDirAt s.tmpDir events := by
  have hfirst : (create s).environment.tmpDir? = some s.tmpDir := by
    change (Assoc.insert {} Environment.tmpKey s.tmpDir).find? Environment.tmpKey = _
    rw [Assoc.find?_insert, if_pos rfl]
  have hsettings : ((create s).run events).settings = s := settings_run (create s) events
  unfold tmpDir tmpDirAt
  rw [tmpDir?_run, hfirst, hsettings]

end Process

end SyscallBridge
