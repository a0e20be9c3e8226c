import SyscallBridge.Proofs.FileSystem.Directories
import SyscallBridge.Proofs.Process.Surroundings
import SyscallBridge.Proofs.Process.TempFiles

/-!
# What `stat` says and what opening finds

Opening looks first whether a path is under the temp directory; `stat` looks at the directories,
then at the temp files and then at the devices, wherever they are. While the temp directory stays
where it was and keeps clear of the devices the two agree. When it moves, a temp file may be left
outside and a device or a directory may come to lie inside.
-/

namespace SyscallBridge

namespace Path

theorem dropPrefix?_self (cs : List Char) : dropPrefix? cs cs = some [] := by
  induction cs with
  | nil => rfl
  | cons c cs ih => rw [dropPrefix?, if_pos rfl, ih]

/-- No directory is under itself. -/
theorem isUnder_trim (directory : String) : isUnder (trim directory) directory = false := by
  unfold isUnder trim
  rw [String.toList_ofList]
  split
  · next hroot =>
    rw [hroot]
    rfl
  · rw [dropPrefix?_self]
    rfl

end Path

namespace Progress

/-- What a call reports of a file. -/
def stat? {π : Type} : Progress Reply π → Option FileStat
  | done (.ok (.stat st)) => some st
  | _ => none

def number? {π : Type} : Progress Reply π → Option Nat
  | done (.ok (.number n)) => some n
  | _ => none

end Progress

namespace Process

/-- What `stat` says of a path. -/
def statOf? (p : Process) (path : String) : Option FileStat := (p.start (.stat path)).progress.stat?

/-- The path can be opened for reading. -/
def opens (p : Process) (path : String) : Bool :=
  (p.start (.open_ path .readOnly)).progress.succeeded

/-- What the descriptor says of itself that opening a path for reading gives. -/
def openedStat? (p : Process) (path : String) : Option FileStat :=
  (p.start (.open_ path .readOnly)).progress.number?.bind fun fd =>
    ((p.next (.call (.open_ path .readOnly))).start (.onFile fd .stat)).progress.stat?

variable {p : Process} {path target : String}

theorem statOf?_eq (h : p.tree.links.resolve path = .ok target) :
    p.statOf? path =
      if target = Path.trim p.tmpDir ∨ target ∈ p.tree.directories then some .directory
      else match p.tree.temps.find? target with
        | some id => some (.regular (p.store.bytes id).length)
        | none => Devices.stat? target := by
  change (Progress.done ((p.tree.stat p.store path p.tmpDir).map Reply.stat)).stat? = _
  unfold FileSystem.stat
  rw [h]
  simp only [bind, Except.bind]
  by_cases hdir : target = Path.trim p.tmpDir ∨ target ∈ p.tree.directories
  · rw [if_pos hdir, if_pos hdir]
    rfl
  · rw [if_neg hdir, if_neg hdir]
    cases p.tree.temps.find? target with
    | some id => rfl
    | none =>
      cases Devices.stat? target with
      | some st => rfl
      | none =>
        dsimp only
        split <;> rfl

theorem statOf?_error {e : CallError} (h : p.tree.links.resolve path = .error e) :
    p.statOf? path = none := by
  change (Progress.done ((p.tree.stat p.store path p.tmpDir).map Reply.stat)).stat? = _
  rw [FileSystem.stat, h]
  rfl

/-- A descriptor that has just been given out says what its file says. -/
theorem stat_allocated (p : Process) (f : OpenFile) :
    ((p.allocate f).2.start (.onFile (p.allocate f).1 .stat)).progress.stat? =
      ((p.store.add f).2.start p.store.nextFile .stat).progress.stat? := by
  have hlookup : (p.allocate f).2.table.lookup (p.allocate f).1 = .ok p.store.nextFile :=
    DescriptorTable.lookup_allocate p.table p.store.nextFile
  change ((p.allocate f).2.startOnFile (p.allocate f).1 .stat).progress.stat? = _
  rw [startOnFile_of_lookup hlookup]
  change (((p.store.add f).2.start p.store.nextFile .stat).progress.map _ _).stat? = _
  cases ((p.store.add f).2.start p.store.nextFile .stat).progress with
  | pending q => rfl
  | done result =>
    cases result with
    | error e => rfl
    | ok r => cases r <;> rfl

theorem openedStat?_of_start {q : Process} {f : OpenFile}
    (h : p.startOpen path .readOnly = .ok (q.allocate f).2 (.number (q.allocate f).1)) :
    p.opens path = true ∧ p.openedStat? path =
      ((q.store.add f).2.start q.store.nextFile .stat).progress.stat? := by
  have hopen : p.start (.open_ path .readOnly) = p.startOpen path .readOnly := rfl
  have hnext : p.next (.call (.open_ path .readOnly)) = (p.startOpen path .readOnly).state := rfl
  refine ⟨by rw [opens, hopen, h]; rfl, ?_⟩
  rw [openedStat?, hnext, hopen, h]
  exact stat_allocated q f

theorem opened_directory (h : p.tree.links.resolve path = .ok target)
    (hu : Path.isUnder target p.tmpDir = true) (hd : target ∈ p.tree.directories) :
    p.opens path = false ∧ p.openedStat? path = none := by
  have hopen : p.start (.open_ path .readOnly) = .fail p (.unsupported "open directory") := by
    change p.startOpen path .readOnly = _
    simp only [startOpen, FileSystem.open_, h, bind, Except.bind, if_pos hu, if_pos hd]
  rw [opens, openedStat?, hopen]
  exact ⟨rfl, rfl⟩

theorem opened_temp (hp : p.tree.Indexed p.store) (h : p.tree.links.resolve path = .ok target)
    (hu : Path.isUnder target p.tmpDir = true) (hd : target ∉ p.tree.directories) :
    p.opens path = true ∧
      p.openedStat? path = some (.regular (p.tempBytes target).length) := by
  obtain ⟨id, t', store', -, hfind, -, -, hbytes, hstart⟩ :=
    startOpen_temp hp .readOnly h hu hd
  obtain ⟨hopens, hstat⟩ := openedStat?_of_start hstart
  refine ⟨hopens, hstat.trans ?_⟩
  -- reading truncates nothing, so the content is what the path held
  have hkept : store'.bytes id = p.tempBytes target := by
    have hsame := hbytes target
    rw [FileSystem.tempBytes, hfind, if_neg fun hall => Bool.noConfusion hall.1] at hsame
    exact hsame
  have hfile : (store'.add (.temp (.open_ id .readOnly))).2.file store'.nextFile =
      .temp (.open_ id .readOnly) := by rw [FileStore.file_add, if_pos rfl]
  rw [FileStore.start, hfile, ← hkept]
  rfl

/-- A device that is there opens as a file that says of itself what the device does. -/
theorem device_opens {st : FileStat} (devices : Devices) (h : Devices.stat? target = some st) :
    ∃ f rest, devices.open? target = some (f, rest) ∧ ∀ store : FileStore,
      ((store.add f).2.start store.nextFile .stat).progress.stat? = some st := by
  obtain ⟨d, hdevice, rfl⟩ := Option.map_eq_some_iff.mp h
  cases d with
  | zone =>
    refine ⟨.fixed ZoneData.bytes 0, devices, by rw [Devices.open?, hdevice]; rfl, fun store => ?_⟩
    rw [FileStore.start, FileStore.file_add, if_pos rfl]
    rfl
  | random =>
    refine ⟨.random (.ofSeed devices.seeds.next.1), ⟨devices.seeds.next.2⟩,
      by rw [Devices.open?, hdevice]; rfl, fun store => ?_⟩
    rw [FileStore.start, FileStore.file_add, if_pos rfl]
    rfl

theorem opened_elsewhere (h : p.tree.links.resolve path = .ok target)
    (hu : ¬ Path.isUnder target p.tmpDir = true) :
    p.opens path = (Devices.stat? target).isSome ∧ p.openedStat? path = Devices.stat? target := by
  cases hstat : Devices.stat? target with
  | none =>
    have hnone : p.tree.devices.open? target = none := by
      rw [Devices.open?, Option.map_eq_none_iff.mp hstat]
      rfl
    have hfail : p.start (.open_ path .readOnly) = .fail p (.notFound path) := by
      change p.startOpen path .readOnly = _
      simp only [startOpen, FileSystem.open_, h, bind, Except.bind, if_neg hu, hnone]
    rw [opens, openedStat?, hfail]
    exact ⟨rfl, rfl⟩
  | some st =>
    obtain ⟨f, devices, hsome, hfstat⟩ := device_opens p.tree.devices hstat
    have hstart : p.startOpen path .readOnly =
        let q : Process := { p with tree := { p.tree with devices } }
        .ok (q.allocate f).2 (.number (q.allocate f).1) := by
      simp only [startOpen, FileSystem.open_, h, bind, Except.bind, if_neg hu, hsome]
    obtain ⟨hopens, hopened⟩ := openedStat?_of_start hstart
    exact ⟨hopens, hopened.trans (hfstat p.store)⟩

/-! ### Where the two agree -/

theorem statOf?_eq_some_iff {st : FileStat} :
    p.statOf? path = some st ↔ p.tree.stat p.store path p.tmpDir = .ok st := by
  change (Progress.done ((p.tree.stat p.store path p.tmpDir).map Reply.stat)).stat? = some st ↔ _
  cases p.tree.stat p.store path p.tmpDir with
  | error e => exact ⟨nofun, nofun⟩
  | ok found => exact ⟨fun h => congrArg Except.ok (Option.some.inj h), fun h => by cases h; rfl⟩

theorem statOf?_directory_iff (h : p.tree.links.resolve path = .ok target) :
    p.statOf? path = some .directory ↔
      target = Path.trim p.tmpDir ∨ target ∈ p.tree.directories :=
  statOf?_eq_some_iff.trans (FileSystem.stat_directory_iff p.store h)

theorem zone_not_empty : ZoneData.bytes.length ≠ 0 := by
  have hfirst : ZoneData.bytes.isEmpty = false := by decide +kernel
  intro hlength
  rw [List.length_eq_zero_iff.mp hlength] at hfirst
  cases hfirst

/-- No device is a regular file of no bytes, which is what a new temp file is. -/
theorem device_stat_ne_empty (path : String) : Devices.stat? path ≠ some (.regular 0) := by
  intro hstat
  obtain ⟨d, -, hd⟩ := Option.map_eq_some_iff.mp hstat
  cases d with
  | zone =>
    simp only [Device.stat, FileStat.regular, FileStat.mk.injEq] at hd
    exact zone_not_empty hd.2
  | random => cases hd

/-- A file that `stat` finds is what opening finds, if both find it in the same place. -/
theorem openedStat?_iff (hp : p.tree.Indexed p.store) (h : p.tree.links.resolve path = .ok target)
    {st : FileStat} (hst : st ≠ .directory) (hstat : p.statOf? path = some st) :
    p.openedStat? path = some st ↔
      if Path.isUnder target p.tmpDir = true then p.tree.temps.contains target = true
      else Devices.stat? target = some st := by
  have hdir : ¬ (target = Path.trim p.tmpDir ∨ target ∈ p.tree.directories) := by
    intro hdir
    rw [(statOf?_directory_iff h).mpr hdir] at hstat
    exact hst (Option.some.inj hstat).symm
  rw [statOf?_eq h, if_neg hdir] at hstat
  by_cases hu : Path.isUnder target p.tmpDir = true
  · rw [if_pos hu, (opened_temp hp h hu fun hd => hdir (.inr hd)).2, Assoc.contains]
    unfold tempBytes FileSystem.tempBytes
    cases hfind : p.tree.temps.find? target with
    | some id =>
      rw [hfind] at hstat
      exact ⟨fun _ => rfl, fun _ => hstat⟩
    | none =>
      -- opening makes an empty file, and `stat` has found a device
      rw [hfind] at hstat
      refine ⟨fun hempty => ?_, fun hheld => by cases hheld⟩
      exact absurd (hstat.trans hempty.symm) (device_stat_ne_empty target)
  · rw [if_neg hu, (opened_elsewhere h hu).2]

/-- A directory that `stat` finds is refused, unless a device is opened in its place. -/
theorem opens_directory_iff (h : p.tree.links.resolve path = .ok target)
    (hstat : p.statOf? path = some .directory) :
    p.opens path = false ↔
      Path.isUnder target p.tmpDir = true ∨ Devices.stat? target = none := by
  by_cases hu : Path.isUnder target p.tmpDir = true
  · have hd : target ∈ p.tree.directories := by
      refine ((statOf?_directory_iff h).mp hstat).resolve_left fun heq => ?_
      rw [heq, Path.isUnder_trim] at hu
      cases hu
    exact ⟨fun _ => .inl hu, fun _ => (opened_directory h hu hd).1⟩
  · rw [(opened_elsewhere h hu).1]
    cases Devices.stat? target with
    | none => exact ⟨fun _ => .inr rfl, fun _ => rfl⟩
    | some st =>
      refine ⟨nofun, fun hor => ?_⟩
      rcases hor with hunder | hnone
      · exact absurd hunder hu
      · cases hnone

/-! ### A temp directory that stays where it is -/

/-- All temp files are under `tmpDir`, and so are all directories but those known at first. -/
structure Within (tmpDir : String) (known : List String) (t : FileSystem) : Prop where
  temps : ∀ path, t.temps.contains path = true → Path.isUnder path tmpDir = true
  directories : ∀ path ∈ t.directories, path ∈ known ∨ Path.isUnder path tmpDir = true

theorem Within.move {tmpDir : String} {known : List String} {t t' : FileSystem}
    (h : Within tmpDir known t) (hm : TreeMove tmpDir t t') : Within tmpDir known t' := by
  cases hm with
  | nothing => exact h
  | drawn devices => exact ⟨h.temps, h.directories⟩
  | removed gone =>
    exact ⟨h.temps, fun path hp => h.directories path (List.mem_of_mem_erase hp)⟩
  | opened made content under free =>
    refine ⟨fun path hp => ?_, h.directories⟩
    rw [Assoc.contains, Assoc.find?_insert] at hp
    split at hp
    · next heq => rw [heq, under]
    · exact h.temps path hp
  | made made under free =>
    refine ⟨h.temps, fun path hp => ?_⟩
    rcases List.mem_cons.mp hp with rfl | hp
    · exact .inr under
    · exact h.directories path hp

theorem Within.step {tmpDir : String} {known : List String} {t t' : FileSystem}
    (h : Within tmpDir known t) (hs : TreeStep tmpDir t t') : Within tmpDir known t' := by
  cases hs with
  | moved move => exact h.move move
  | linked links => exact ⟨h.temps, h.directories⟩

theorem Within.run {tmpDir : String} {known : List String} (h : Within tmpDir known p.tree)
    (events : List ProcessEvent)
    (hfixed : ∀ earlier, earlier <+: events → (p.run earlier).tmpDir = tmpDir) :
    Within tmpDir known (p.run events).tree := by
  induction events generalizing p with
  | nil => exact h
  | cons e events ih =>
    have hdir : p.tmpDir = tmpDir := hfixed [] (List.nil_prefix)
    have hstep := treeStep_next p e
    rw [hdir] at hstep
    refine ih (h.step hstep) fun earlier hearlier => ?_
    exact hfixed (e :: earlier) (List.cons_prefix_cons.mpr ⟨rfl, hearlier⟩)

theorem within_create (s : Settings) :
    Within s.tmpDir (s.knownDirs.map Path.trim) (create s).tree where
  temps path h := by cases h
  directories path h := .inl (List.mem_eraseDups.mp h)

/-- The temp directory has been the configured one all along, and no device is at it, under it or a
known directory. -/
structure KeptClear (s : Settings) (events : List ProcessEvent) : Prop where
  fixed : ∀ earlier, earlier <+: events → tmpDirAt s.tmpDir earlier = s.tmpDir
  clear : ∀ path, (Devices.stat? path).isSome = true → path ≠ Path.trim s.tmpDir ∧
    Path.isUnder path s.tmpDir = false ∧ path ∉ s.knownDirs.map Path.trim

theorem device_paths {path : String} (h : (Devices.stat? path).isSome = true) :
    path ∈ ["/etc/localtime", "/dev/urandom", "/dev/random"] := by
  unfold Devices.stat? Device.ofPath? at h
  split at h
  · exact List.mem_cons_self
  · exact List.mem_cons_of_mem _ List.mem_cons_self
  · exact List.mem_cons_of_mem _ (List.mem_cons_of_mem _ List.mem_cons_self)
  · cases h

/-- The settings that nobody has changed keep clear of the devices. -/
theorem clear_of_default : ∀ path ∈ ["/etc/localtime", "/dev/urandom", "/dev/random"],
    path ≠ Path.trim ({} : Settings).tmpDir ∧
      Path.isUnder path ({} : Settings).tmpDir = false ∧
      path ∉ ({} : Settings).knownDirs.map Path.trim := by
  decide +kernel

theorem agree_of_keptClear {s : Settings} {events : List ProcessEvent} (hclear : KeptClear s events)
    {st : FileStat} (h : ((create s).run events).tree.links.resolve path = .ok target)
    (hstat : ((create s).run events).statOf? path = some st) :
    if st = .directory then ((create s).run events).opens path = false
    else ((create s).run events).openedStat? path = some st := by
  have hdir : ((create s).run events).tmpDir = s.tmpDir :=
    (tmpDir_at s events).trans (hclear.fixed events List.prefix_rfl)
  have hwithin : Within s.tmpDir (s.knownDirs.map Path.trim) ((create s).run events).tree := by
    refine (within_create s).run events fun earlier hearlier => ?_
    exact (tmpDir_at s earlier).trans (hclear.fixed earlier hearlier)
  split
  · next heq =>
    subst heq
    rw [opens_directory_iff h hstat, hdir]
    by_contra hneither
    obtain ⟨hout, hdevice⟩ := not_or.mp hneither
    obtain ⟨hne, -, hunknown⟩ := hclear.clear target (Option.isSome_iff_ne_none.mpr hdevice)
    rcases (statOf?_directory_iff h).mp hstat with heq | hmem
    · exact hne (heq.trans (congrArg Path.trim hdir))
    · exact (hwithin.directories target hmem).elim hunknown hout
  · next hne =>
    have hp := indexed_run s events
    have hfile : ¬ (target = Path.trim ((create s).run events).tmpDir ∨
        target ∈ ((create s).run events).tree.directories) := by
      intro hd
      rw [(statOf?_directory_iff h).mpr hd] at hstat
      exact hne (Option.some.inj hstat).symm
    rw [openedStat?_iff hp h hne hstat, hdir]
    rw [statOf?_eq h, if_neg hfile] at hstat
    cases hfind : ((create s).run events).tree.temps.find? target with
    | some id =>
      have hheld : ((create s).run events).tree.temps.contains target = true := by
        rw [Assoc.contains, hfind]
        rfl
      rw [if_pos (hwithin.temps target hheld)]
      exact hheld
    | none =>
      rw [hfind] at hstat
      dsimp only at hstat
      have hdevice : (Devices.stat? target).isSome = true := by
        rw [hstat]
        rfl
      have hout := (hclear.clear target hdevice).2.1
      rw [if_neg (by rw [hout]; exact Bool.false_ne_true)]
      exact hstat

/-- What `stat` says of a path tells what opening it comes to, exactly where both look for the path
in one place; they do so everywhere while the temp directory stays clear of the devices. -/
theorem stat_foretells_open (s : Settings) (events : List ProcessEvent) (path : String)
    (st : FileStat) :
    let p := (create s).run events
    p.statOf? path = some st →
    (∃ target, p.tree.links.resolve path = .ok target ∧
      if st = .directory then
        p.opens path = false ↔
          Path.isUnder target p.tmpDir = true ∨ Devices.stat? target = none
      else
        p.openedStat? path = some st ↔
          if Path.isUnder target p.tmpDir = true then p.tree.temps.contains target = true
          else Devices.stat? target = some st) ∧
    (KeptClear s events →
      if st = .directory then p.opens path = false else p.openedStat? path = some st) := by
  intro p hstat
  have hp : p.tree.Indexed p.store := indexed_run s events
  cases hresolve : p.tree.links.resolve path with
  | error e =>
    rw [statOf?_error hresolve] at hstat
    cases hstat
  | ok target =>
    refine ⟨⟨target, rfl, ?_⟩, fun hclear => agree_of_keptClear hclear hresolve hstat⟩
    split
    · next heq =>
      subst heq
      exact opens_directory_iff hresolve hstat
    · next hne => exact openedStat?_iff hp hresolve hne hstat

theorem stat_foretells_open_through_link :
    let events : List ProcessEvent := [.call (.open_ "/tmp/a" .writeOnly),
      .call (.symlink "/tmp/a" "/b/")]
    let p := (create {}).run events
    p.statOf? "/b" = some (.regular 0) ∧ KeptClear {} events ∧
      p.openedStat? "/b" = some (.regular 0) := by
  intro events p
  have hstat : p.statOf? "/b" = some (.regular 0) := by decide +kernel
  have hunset : ∀ e ∈ events, ∀ dir, e.tmpDirAfter dir = dir := by
    intro e he dir
    rcases List.mem_cons.mp he with rfl | he
    · rfl
    · rw [List.mem_singleton.mp he]
      rfl
  have hclear : KeptClear {} events :=
    ⟨fun earlier hearlier => tmpDirAt_of_unset _ fun e he => hunset e (hearlier.subset he),
      fun path hdevice => clear_of_default path (device_paths hdevice)⟩
  have hopen := (stat_foretells_open {} events "/b" (.regular 0) hstat).2 hclear
  exact ⟨hstat, hclear, hopen⟩

/-- A device under a temp directory of `/` is opened as a temp file, a temp file left behind where
`TMPDIR` was is not found, and a device at `TMPDIR` itself is opened although it is a directory. -/
theorem stat_and_open_disagree :
    let root := (create {}).run [.call (.setenv "TMPDIR" "/")]
    let moved := (create {}).run [.call (.open_ "/tmp/kept" .writeOnly),
      .call (.setenv "TMPDIR" "/var")]
    let onDevice := (create {}).run [.call (.setenv "TMPDIR" "/etc/localtime")]
    root.statOf? "/dev/urandom" = some .device ∧
    root.openedStat? "/dev/urandom" = some (.regular 0) ∧
    moved.statOf? "/tmp/kept" = some (.regular 0) ∧ moved.opens "/tmp/kept" = false ∧
    onDevice.statOf? "/etc/localtime" = some .directory ∧
    onDevice.opens "/etc/localtime" = true := by
  decide +kernel

end Process

end SyscallBridge
