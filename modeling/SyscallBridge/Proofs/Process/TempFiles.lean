import SyscallBridge.Proofs.File.Contents
import SyscallBridge.Proofs.Process.Parts

/-!
# Temp files under system calls

What every part of a system call does to temp files. Only opening a temp file and writing through a
handle do anything at all; the rest keeps all contents. What a turn does is written down as a
`TempEvent`.
-/

namespace SyscallBridge.Process

/-! ### Parts of calls that keep all contents -/

structure TempsKept (p p' : Process) : Prop where
  temps : p'.tree.temps = p.tree.temps
  store : p.store.TempsKept p'.store

namespace TempsKept

variable {p p' p'' : Process}

theorem refl (p : Process) : TempsKept p p := ⟨rfl, FileStore.TempsKept.refl p.store⟩

theorem trans (h : TempsKept p p') (h' : TempsKept p' p'') : TempsKept p p'' :=
  ⟨h'.temps.trans h.temps, h.store.trans h'.store⟩

theorem ofStore {store : FileStore} (h : p.store.TempsKept store) : TempsKept p (p.ofStore store) :=
  ⟨rfl, h⟩

theorem allocate {f : OpenFile} (hf : ∀ h, f ≠ .temp h) : TempsKept p (p.allocate f).2 :=
  ⟨rfl, FileStore.TempsKept.add hf⟩

theorem closeFile (file : Option Nat) : TempsKept p (p.closeFile file).1 := by
  cases file with
  | none => exact refl p
  | some id => exact ofStore (FileStore.kept_close p.store id)

theorem parts (hp : Parts p p') : TempsKept p p' := by
  induction hp with
  | refl => exact refl p
  | @tail p' p'' _ part ih =>
    refine ih.trans ?_
    cases part with
    | opens s => exact allocate fun h hx => by cases hx
    | turns file s _ => exact ofStore (.set fun h hx => by cases hx)
    | @drops table shut _ _ =>
      have hclose := closeFile (p := { p' with table }) shut
      exact ⟨hclose.temps, hclose.store⟩

theorem makeDirectory {t t' : FileSystem} {path tmpDir : String}
    (h : t.makeDirectory path tmpDir = .ok t') : t'.temps = t.temps := by
  unfold FileSystem.makeDirectory at h
  dsimp only at h
  split at h
  · cases h
  · split at h
    · cases h
    · split at h
      · cases h
      · cases h
        rfl

theorem removeDirectory {t t' : FileSystem} {path tmpDir : String}
    (h : t.removeDirectory path tmpDir = .ok t') : t'.temps = t.temps := by
  unfold FileSystem.removeDirectory at h
  obtain ⟨target, -, hrest⟩ := exists_ok_of_bind h
  split at hrest
  · cases hrest
  · split at hrest
    · cases hrest
      rfl
    · split at hrest
      · cases hrest
      · cases hrest

theorem unlink {t t' : FileSystem} {path : String} (h : t.unlink path = .ok t') :
    t'.temps = t.temps := by
  unfold FileSystem.unlink at h
  split at h
  · cases h
    rfl
  · cases h

theorem onTree {r : Except CallError FileSystem} (h : ∀ t, r = .ok t → t.temps = p.tree.temps) :
    TempsKept p (p.onTree r).state := by
  cases r with
  | error e => exact refl p
  | ok t => exact ⟨h t rfl, FileStore.TempsKept.refl p.store⟩

theorem start {c : Syscall} (hopen : ∀ path flags, c ≠ .open_ path flags)
    (hfile : ∀ fd call, c ≠ .onFile fd call) : TempsKept p (p.start c).state := by
  cases c with
  | open_ path flags => exact absurd rfl (hopen path flags)
  | onFile fd call => exact absurd rfl (hfile fd call)
  | mkdir path => exact onTree fun t => makeDirectory
  | rmdir path => exact onTree fun t => removeDirectory
  | unlink path => exact onTree fun t => unlink
  | setenv key value =>
    simp only [Process.start, startSetenv]
    split
    · exact refl p
    · exact ⟨rfl, FileStore.TempsKept.refl p.store⟩
  | symlink target path | unsetenv key => exact ⟨rfl, FileStore.TempsKept.refl p.store⟩
  | close | dup | dup2 | socket | onSocket | resolve | dial | fsync | stat | readlink | getenv
  | environ | getpid | missing => exact parts (parts_start p rfl)

end TempsKept

end SyscallBridge.Process

namespace SyscallBridge

/-! ### What a turn does to temp files -/

/-- A change to the temp file at a path. -/
inductive TempEvent where
  | truncated (path : String)
  | wrote (path : String) (w : TempWrite)
  deriving DecidableEq, Repr

namespace TempEvent

/-- The bytes at a path after a change. -/
def after (path : String) (bytes : Bytes) : TempEvent → Bytes
  | truncated changed => if path = changed then [] else bytes
  | wrote changed w => if path = changed then splice bytes w.data w.offset else bytes

/-- The writes to a path since it was last truncated, after a change. -/
def writes (path : String) (ws : List TempWrite) : TempEvent → List TempWrite
  | truncated changed => if path = changed then [] else ws
  | wrote changed w => if path = changed then ws ++ [w] else ws

theorem shown_after {path : String} {ws : List TempWrite} {bytes : Bytes} (h : Shown ws bytes)
    (ev : TempEvent) : Shown (ev.writes path ws) (ev.after path bytes) := by
  cases ev with
  | truncated changed =>
    by_cases hp : path = changed
    · simp only [writes, after, if_pos hp]
      exact shown_nil
    · simp only [writes, after, if_neg hp]
      exact h
  | wrote changed w =>
    by_cases hp : path = changed
    · simp only [writes, after, if_pos hp]
      exact h.write w
    · simp only [writes, after, if_neg hp]
      exact h

end TempEvent

/-- The writes to a path since it was last truncated, in order. -/
def writesTo (path : String) (log : List TempEvent) : List TempWrite :=
  log.foldl (TempEvent.writes path) []

namespace Process

/-- The bytes at a path; a path that was never opened has none. -/
def tempBytes (p : Process) (path : String) : Bytes := p.tree.tempBytes p.store path

/-- The temp file of a descriptor: its path and the handle. -/
def temp? (p : Process) (fd : Nat) : Option (String × TempHandle) :=
  match p.table.lookup fd with
  | .error _ => none
  | .ok file =>
    match p.store.file file with
    | .temp h => (p.store.contents.find? h.content).map fun c => (c.path, h)
    | _ => none

/-- A successful open truncates the path at the end of the links, if it asks to and is to write. -/
def openEvent? (p : Process) (path : String) (flags : OpenFlags) : Option TempEvent :=
  match p.tree.links.resolve path with
  | .error _ => none
  | .ok target =>
    if (p.startOpen path flags).progress.succeeded ∧ Path.isUnder target p.tmpDir ∧
        flags.truncate ∧ flags.write then some (.truncated target)
    else none

/-- A successful call on the file of a descriptor may be a write to its path. -/
def fileEvent? (p : Process) (fd : Nat) (c : FileCall) : Option TempEvent :=
  match p.temp? fd with
  | none => none
  | some (path, h) =>
    if (p.startOnFile fd c).progress.succeeded then
      (h.written? (p.tempBytes path) c).map (.wrote path)
    else none

/-- The change that a turn makes, read off the call and whether it succeeds. -/
def tempEvent? (p : Process) : ProcessEvent → Option TempEvent
  | .call (.open_ path flags) => p.openEvent? path flags
  | .call (.onFile fd c) => p.fileEvent? fd c
  | _ => none

/-- A turn leaves temp files in order, and changes their bytes as the event says. -/
structure TempsFollow (p : Process) (ev : Option TempEvent) (p' : Process) : Prop where
  indexed : p'.tree.Indexed p'.store
  bytes : ∀ path, p'.tempBytes path =
    (ev.map (·.after path (p.tempBytes path))).getD (p.tempBytes path)

theorem TempsKept.follow {p p' : Process} (h : TempsKept p p') (hp : p.tree.Indexed p.store) :
    TempsFollow p none p' where
  indexed := hp.kept h.temps h.store
  bytes path := FileSystem.tempBytes_kept h.temps h.store path

variable {p : Process}

/-- Opening a path under the temp directory that is no directory. -/
theorem startOpen_temp (hp : p.tree.Indexed p.store) {path target : String} (flags : OpenFlags)
    (hr : p.tree.links.resolve path = .ok target) (hu : Path.isUnder target p.tmpDir = true)
    (hd : target ∉ p.tree.directories) :
    ∃ id t' store', p.tree.open_ p.store path flags p.tmpDir =
        .ok (.temp (.open_ id flags), t', store') ∧
      t'.temps.find? target = some id ∧
      (∀ other c, p.tree.temps.find? other = some c → t'.temps.find? other = some c) ∧
      t'.Indexed store' ∧
      (∀ other, t'.tempBytes store' other =
        if flags.truncate ∧ flags.write ∧ other = target then [] else p.tempBytes other) ∧
      let made := allocate { p with tree := t', store := store' } (.temp (.open_ id flags))
      p.startOpen path flags = .ok made.2 (.number made.1) := by
  obtain ⟨id, t', store', hmade, hpath, htemps, -, hindexed, hbytes⟩ :=
    FileSystem.openTemp_spec hp target flags
  have hopen : p.tree.open_ p.store path flags p.tmpDir =
      .ok (.temp (.open_ id flags), t', store') := by
    unfold FileSystem.open_
    rw [hr]
    simp only [bind, Except.bind, if_pos hu, if_neg hd, hmade]
  refine ⟨id, t', store', hopen, hpath, htemps, hindexed, hbytes, ?_⟩
  simp only [startOpen, hopen]

/-- Any other open that succeeds is of a device. -/
theorem open_other {path target : String} {flags : OpenFlags}
    (hr : p.tree.links.resolve path = .ok target)
    (hu : ¬ (Path.isUnder target p.tmpDir = true ∧ target ∉ p.tree.directories)) {f : OpenFile}
    {t : FileSystem} {store : FileStore}
    (hopen : p.tree.open_ p.store path flags p.tmpDir = .ok (f, t, store)) :
    Path.isUnder target p.tmpDir = false ∧ (∀ h, f ≠ .temp h) ∧ store = p.store ∧
      t.temps = p.tree.temps := by
  unfold FileSystem.open_ at hopen
  rw [hr] at hopen
  simp only [bind, Except.bind] at hopen
  by_cases hunder : Path.isUnder target p.tmpDir = true
  · have hd : target ∈ p.tree.directories := by
      by_contra hd
      exact hu ⟨hunder, hd⟩
    rw [if_pos hunder, if_pos hd] at hopen
    cases hopen
  · rw [if_neg hunder] at hopen
    split at hopen
    · next file devices ho =>
      cases hopen
      refine ⟨Bool.eq_false_iff.2 hunder, fun h hf => ?_, rfl, rfl⟩
      obtain ⟨d, -, hd⟩ := Option.map_eq_some_iff.1 ho
      cases d <;> cases hd <;> cases hf
    · cases hopen

/-- Any other open keeps all temp files, whether it succeeds or not. -/
theorem startOpen_other {path target : String} (flags : OpenFlags)
    (hr : p.tree.links.resolve path = .ok target)
    (hu : ¬ (Path.isUnder target p.tmpDir = true ∧ target ∉ p.tree.directories)) :
    TempsKept p (p.startOpen path flags).state ∧
      (Path.isUnder target p.tmpDir = true →
        (p.startOpen path flags).progress.succeeded = false) := by
  unfold startOpen
  split
  · exact ⟨TempsKept.refl p, fun _ => rfl⟩
  · next f t store hopen =>
    obtain ⟨hunder, hf, rfl, htemps⟩ := open_other hr hu hopen
    have hkept := TempsKept.allocate (p := p) hf
    refine ⟨⟨htemps, hkept.store⟩, fun h => ?_⟩
    rw [hunder] at h
    cases h

theorem follow_open (hp : p.tree.Indexed p.store) (path : String) (flags : OpenFlags) :
    TempsFollow p (p.openEvent? path flags) (p.startOpen path flags).state := by
  unfold openEvent?
  cases hr : p.tree.links.resolve path with
  | error e =>
    have hfail : p.startOpen path flags = .fail p e := by
      simp only [startOpen, FileSystem.open_, hr]
      rfl
    rw [hfail]
    exact (TempsKept.refl p).follow hp
  | ok target =>
    by_cases hu : Path.isUnder target p.tmpDir = true ∧ target ∉ p.tree.directories
    · obtain ⟨id, t', store', -, hpath, -, hindexed, hbytes, hstart⟩ :=
        startOpen_temp hp flags hr hu.1 hu.2
      have hdone : (p.startOpen path flags).progress.succeeded = true := by
        rw [hstart]
        rfl
      dsimp only
      rw [hstart] at hdone ⊢
      by_cases htrunc : flags.truncate = true ∧ flags.write = true
      · rw [if_pos ⟨hdone, hu.1, htrunc⟩]
        refine ⟨hindexed.addHandle hpath, fun other => (hbytes other).trans ?_⟩
        simp only [htrunc.1, htrunc.2, true_and]
        rfl
      · have hno : ∀ other, ¬ (flags.truncate = true ∧ flags.write = true ∧ other = target) :=
          fun other hall => htrunc ⟨hall.1, hall.2.1⟩
        rw [if_neg fun hall => htrunc hall.2.2]
        refine ⟨hindexed.addHandle hpath, fun other => (hbytes other).trans ?_⟩
        rw [if_neg (hno other)]
        rfl
    · obtain ⟨hkept, hfailed⟩ := startOpen_other flags hr hu
      have hno : ¬ ((p.startOpen path flags).progress.succeeded = true ∧
          Path.isUnder target p.tmpDir = true ∧ flags.truncate = true ∧ flags.write = true) := by
        rintro ⟨hdone, hunder, -⟩
        rw [hfailed hunder] at hdone
        cases hdone
      dsimp only
      rw [if_neg hno]
      exact hkept.follow hp

theorem temp?_eq_some {fd : Nat} {path : String} {h : TempHandle}
    (ht : p.temp? fd = some (path, h)) :
    ∃ file c, p.table.lookup fd = .ok file ∧ p.store.file file = .temp h ∧
      p.store.contents.find? h.content = some c ∧ c.path = path := by
  unfold temp? at ht
  split at ht
  · cases ht
  · rename_i file hfile
    split at ht
    · rename_i h' hh
      obtain ⟨c, hc, heq⟩ := Option.map_eq_some_iff.1 ht
      cases heq
      exact ⟨file, c, hfile, hh, hc, rfl⟩
    · cases ht

theorem temp?_of_handle {fd file : Nat} {h : TempHandle} {c : TempContent}
    (hfile : p.table.lookup fd = .ok file) (hh : p.store.file file = .temp h)
    (hc : p.store.contents.find? h.content = some c) : p.temp? fd = some (c.path, h) := by
  simp only [temp?, hfile, hh, hc, Option.map_some]

theorem startOnFile_of_lookup {fd file : Nat} (hfile : p.table.lookup fd = .ok file)
    (c : FileCall) : p.startOnFile fd c =
      (p.store.start file c).map p.ofStore (·) fun q => .onSocket file q .nothing := by
  simp only [startOnFile, hfile]

theorem startOnFile_temp {fd file : Nat} {h : TempHandle} (hfile : p.table.lookup fd = .ok file)
    (hh : p.store.file file = .temp h) (c : FileCall) :
    p.startOnFile fd c =
      (p.store.startTemp file h c).map p.ofStore (·) fun q => .onSocket file q .nothing := by
  simp only [startOnFile, hfile, FileStore.start, hh]

theorem succeeded_map {ρ π ρ' π' : Type} (f : ρ → ρ') (g : π → π') (r : Progress ρ π) :
    (r.map f g).succeeded = r.succeeded := by
  cases r with
  | pending q => rfl
  | done result => cases result <;> rfl

theorem follow_onFile (hp : p.tree.Indexed p.store) (fd : Nat) (c : FileCall) :
    TempsFollow p (p.fileEvent? fd c) (p.startOnFile fd c).state := by
  unfold fileEvent?
  cases ht : p.temp? fd with
  | none =>
    -- the file is no temp file, since a handle of one has a path
    refine TempsKept.follow ?_ hp
    cases hl : p.table.lookup fd with
    | error e =>
      simp only [startOnFile, hl]
      exact TempsKept.refl p
    | ok file =>
      rw [startOnFile_of_lookup hl]
      refine TempsKept.ofStore (FileStore.kept_start fun h hh => ?_)
      obtain ⟨x, hx⟩ := hp.handles file h hh
      rw [temp?_of_handle hl hh hx] at ht
      cases ht
  | some found =>
    obtain ⟨path, h⟩ := found
    obtain ⟨file, content, hl, hh, hc, rfl⟩ := temp?_eq_some ht
    have hbytes : p.tempBytes content.path = p.store.bytes h.content :=
      FileSystem.tempBytes_of_content hp hc
    dsimp only
    rw [startOnFile_temp hl hh, hbytes]
    simp only [Turn.map, succeeded_map]
    cases FileStore.tempTurn hh c with
    | kept hkept hnothing =>
      by_cases hdone : (p.store.startTemp file h c).progress.succeeded = true
      · rw [if_pos hdone, hnothing hdone]
        exact (TempsKept.ofStore hkept).follow hp
      · rw [if_neg hdone]
        exact (TempsKept.ofStore hkept).follow hp
    | wrote w mid hkept hwritten hdone hstate =>
      rw [if_pos hdone, hwritten, hstate]
      have hmid : p.tree.Indexed mid := hp.kept rfl hkept
      have hc' : mid.contents.find? h.content = some content := (hkept.contents _).trans hc
      refine ⟨hmid.setBytes _ _, fun other => ?_⟩
      refine (FileSystem.tempBytes_setBytes hmid hc' _ other).trans ?_
      rw [FileSystem.tempBytes_kept rfl hkept]
      simp only [Option.map_some, Option.getD_some, TempEvent.after]
      by_cases ho : other = content.path
      · rw [if_pos ho, if_pos ho, ho, hbytes]
      · rw [if_neg ho, if_neg ho]
        rfl

theorem follow_next (hp : p.tree.Indexed p.store) (e : ProcessEvent) :
    TempsFollow p (p.tempEvent? e) (p.next e) := by
  cases e with
  | answer q a => exact (TempsKept.parts (parts_resume p q a)).follow hp
  | call c =>
    cases c with
    | open_ path flags => exact follow_open hp path flags
    | onFile fd call => exact follow_onFile hp fd call
    | close | fsync | dup | dup2 | stat | mkdir | rmdir | symlink | unlink | readlink | getenv
    | setenv | unsetenv | environ | getpid | socket | onSocket | resolve | dial | missing =>
      exact (TempsKept.start (fun _ _ h => by cases h) (fun _ _ h => by cases h)).follow hp

/-! ### Runs -/

theorem indexed_create (s : Settings) : (create s).tree.Indexed (create s).store := by
  obtain ⟨blank, hstore, -, htemps, hcreate⟩ := create_eq s
  have hblank : blank.tree.Indexed blank.store := by
    rw [hstore]
    refine ⟨fun path id => ?_, ?_, ?_⟩
    · rw [htemps]
      constructor
      · intro h
        cases h
      · rintro ⟨c, hc, -⟩
        cases hc
    · intro id c hc
      cases hc
    · intro file h hf
      cases hf
  have hkept : TempsKept blank (create s) := by
    rw [hcreate]
    refine (TempsKept.allocate ?_).trans ((TempsKept.allocate ?_).trans (TempsKept.allocate ?_))
    all_goals
      intro h hx
      cases hx
  exact hblank.kept hkept.temps hkept.store

theorem indexed_run (s : Settings) (events : List ProcessEvent) :
    ((create s).run events).tree.Indexed ((create s).run events).store := by
  have hrun : ∀ p : Process, p.tree.Indexed p.store →
      (p.run events).tree.Indexed (p.run events).store := by
    induction events with
    | nil => exact fun _ hp => hp
    | cons e events ih => exact fun p hp => ih (p.next e) (follow_next hp e).indexed
  exact hrun _ (indexed_create s)

theorem openEvent?_eq_some {given : String} {flags : OpenFlags} {ev : TempEvent}
    (h : p.openEvent? given flags = some ev) : ∃ target, p.tree.links.resolve given = .ok target ∧
      flags.truncate = true ∧ flags.write = true ∧ ev = .truncated target := by
  unfold openEvent? at h
  split at h
  · cases h
  · rename_i target hr
    split at h
    · rename_i hall
      cases h
      exact ⟨target, hr, hall.2.2.1, hall.2.2.2, rfl⟩
    · cases h

end Process

end SyscallBridge
