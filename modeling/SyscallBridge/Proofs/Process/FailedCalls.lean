import SyscallBridge.Proofs.Process.Run
import SyscallBridge.Process.InPlace

/-!
# Calls that fail

A call on a path that fails leaves the process as it was: no link, directory, temp file, content,
descriptor or seed has changed. That is proved of the calls written change by change, by rules that
follow their steps, and these calls are the ones that the process answers.
-/

namespace SyscallBridge

theorem Assoc.erase_of_not_contains {κ ν : Type} [DecidableEq κ] {m : Assoc κ ν} {k : κ}
    (h : m.contains k = false) : m.erase k = m := by
  have hnone : m.entries.find? (fun e => decide (e.1 = k)) = none := by
    simpa [contains, find?] using h
  have hother : ∀ e ∈ m.entries, e.1 ≠ k := by simpa using List.find?_eq_none.mp hnone
  have hall : m.entries.filter (fun e => decide (e.1 ≠ k)) = m.entries :=
    List.filter_eq_self.mpr fun e he => decide_eq_true (hother e he)
  rw [erase_eq_filter, hall]

namespace Process

namespace InPlace

variable {α β : Type}

/-! ### Rules -/

/-- The process stays as it is, whether the steps give up or not. -/
def Silent (m : InPlace α) : Prop := ∀ p, (m.on p).2 = p

/-- The steps do not give up. -/
def Sure (m : InPlace α) : Prop := ∀ p, ∃ a, (m.on p).1 = .ok a

/-- When the steps give up they have not changed anything. -/
def Careful (m : InPlace α) : Prop := ∀ p e, (m.on p).1 = .error e → (m.on p).2 = p

/-- A change that says `false` when there is nothing to change. -/
structure Telling (m : InPlace Bool) : Prop where
  sure : m.Sure
  idle : ∀ p, (m.on p).1 = .ok false → (m.on p).2 = p

theorem Silent.careful {m : InPlace α} (h : m.Silent) : m.Careful := fun p _ _ => h p

theorem Sure.not_error {m : InPlace α} (h : m.Sure) (p : Process) (e : CallError) :
    (m.on p).1 ≠ .error e := by
  obtain ⟨a, ha⟩ := h p
  rw [ha]
  exact nofun

theorem Sure.careful {m : InPlace α} (h : m.Sure) : m.Careful :=
  fun p e he => absurd he (h.not_error p e)

theorem silent_get : (get : InPlace Process).Silent := fun _ => rfl

theorem silent_throw (e : CallError) : (throw e : InPlace α).Silent := fun _ => rfl

theorem sure_pure (a : α) : (pure a : InPlace α).Sure := fun _ => ⟨a, rfl⟩

theorem careful_pure (a : α) : (pure a : InPlace α).Careful := (sure_pure a).careful

theorem careful_throw (e : CallError) : (throw e : InPlace α).Careful := (silent_throw e).careful

theorem on_bind_of_ok {m : InPlace α} {p : Process} {a : α} (h : (m.on p).1 = .ok a)
    (next : α → InPlace β) : (m >>= next).on p = (next a).on (m.on p).2 := by
  rw [on_bind, show m.on p = (.ok a, (m.on p).2) from Prod.ext h rfl]

theorem on_bind_of_error {m : InPlace α} {p : Process} {e : CallError}
    (h : (m.on p).1 = .error e) (next : α → InPlace β) :
    (m >>= next).on p = (.error e, (m.on p).2) := by
  rw [on_bind, show m.on p = (.error e, (m.on p).2) from Prod.ext h rfl]

theorem Sure.bind {m : InPlace α} {next : α → InPlace β} (h : m.Sure) (hnext : ∀ a, (next a).Sure) :
    (m >>= next).Sure := by
  intro p
  obtain ⟨a, ha⟩ := h p
  rw [on_bind_of_ok ha]
  exact hnext a _

/-- Looking first and then going on with care. -/
theorem Silent.bind {m : InPlace α} {next : α → InPlace β} (h : m.Silent)
    (hnext : ∀ a, (next a).Careful) : (m >>= next).Careful := by
  intro p e
  cases hm : (m.on p).1 with
  | error e' =>
    rw [on_bind_of_error hm]
    exact fun _ => h p
  | ok a =>
    rw [on_bind_of_ok hm, h p]
    exact hnext a p e

/-- Going on with changes when nothing can fail any more. -/
theorem Careful.bind {m : InPlace α} {next : α → InPlace β} (h : m.Careful)
    (hnext : ∀ a, (next a).Sure) : (m >>= next).Careful := by
  intro p e
  cases hm : (m.on p).1 with
  | error e' =>
    rw [on_bind_of_error hm]
    exact fun _ => h p e' hm
  | ok a =>
    rw [on_bind_of_ok hm]
    exact fun he => absurd he ((hnext a).not_error _ e)

theorem Telling.on_bind_idle {m : InPlace Bool} (h : m.Telling) {p : Process}
    (htold : (m.on p).1 = .ok false) (next : Bool → InPlace β) :
    (m >>= next).on p = (next false).on p := by rw [on_bind_of_ok htold, h.idle p htold]

/-- A change as a condition: where it has changed something nothing can fail any more, and
elsewhere all is still as it was. -/
theorem Telling.bind {m : InPlace Bool} {next : Bool → InPlace β} (h : m.Telling)
    (hdone : (next true).Sure) (hidle : (next false).Careful) : (m >>= next).Careful := by
  intro p e
  obtain ⟨told, htold⟩ := h.sure p
  cases told with
  | true =>
    rw [on_bind_of_ok htold]
    exact fun he => absurd he (hdone.not_error _ e)
  | false =>
    rw [h.on_bind_idle htold]
    exact hidle p e

/-! ### Steps -/

theorem on_resolve (path : String) (p : Process) :
    (resolve path).on p = (p.tree.links.resolve path, p) := by
  unfold resolve
  rw [on_get_bind]
  cases p.tree.links.resolve path <;> rfl

theorem on_resolve_bind (path : String) (next : String → InPlace β) (p : Process) :
    (resolve path >>= next).on p =
      match p.tree.links.resolve path with
      | .ok target => (next target).on p
      | .error e => (.error e, p) := by
  rw [on_bind, on_resolve]
  cases p.tree.links.resolve path <;> rfl

theorem silent_resolve (path : String) : (resolve path).Silent := by
  intro p
  rw [on_resolve]

theorem telling_insertDirectory (path : String) : (insertDirectory path).Telling where
  sure p := ⟨decide (path ∉ p.tree.directories), rfl⟩
  idle p h := by
    have hmem : path ∈ p.tree.directories := by
      have htold : decide (path ∉ p.tree.directories) = false := Except.ok.inj h
      simpa using htold
    change { p with tree := { p.tree with directories := p.tree.directories.insert path } } = p
    rw [List.insert_of_mem hmem]

theorem telling_eraseDirectory (path : String) : (eraseDirectory path).Telling where
  sure p := ⟨decide (path ∈ p.tree.directories), rfl⟩
  idle p h := by
    have hmem : path ∉ p.tree.directories := of_decide_eq_false (Except.ok.inj h)
    change { p with tree := { p.tree with directories := p.tree.directories.erase path } } = p
    rw [List.erase_of_not_mem hmem]

theorem telling_eraseLink (path : String) : (eraseLink path).Telling where
  sure p := ⟨p.tree.links.contains path, rfl⟩
  idle p h := by
    change { p with tree := { p.tree with links := p.tree.links.erase path } } = p
    rw [Assoc.erase_of_not_contains (Except.ok.inj h)]

theorem sure_drawSeed : drawSeed.Sure := fun p => ⟨p.tree.devices.seeds.next.1, rfl⟩

theorem sure_allocate (f : OpenFile) : (allocate f).Sure := fun p => ⟨(p.allocate f).1, rfl⟩

theorem sure_openTemp (target : String) (flags : OpenFlags) : (openTemp target flags).Sure := by
  have hcontent : (content target).Sure := fun p => ⟨(p.tree.content p.store target).1, rfl⟩
  have hempty : ∀ id, (empty id).Sure := fun id p => ⟨(), rfl⟩
  refine hcontent.bind fun id => ?_
  dsimp only
  split
  · exact (hempty id).bind fun _ => sure_pure _
  · exact sure_pure _

/-! ### Calls -/

theorem careful_openDevice (target path : String) : (openDevice target path).Careful := by
  unfold openDevice
  split
  · exact careful_throw _
  · exact careful_pure _
  · exact (sure_drawSeed.bind fun _ => sure_pure _).careful

theorem careful_openFile (path : String) (flags : OpenFlags) : (openFile path flags).Careful := by
  refine (silent_resolve path).bind fun target => silent_get.bind fun p => ?_
  split
  · split
    · exact careful_throw _
    · exact (sure_openTemp target flags).careful
  · exact careful_openDevice target path

theorem careful_open (path : String) (flags : OpenFlags) : (open_ path flags).Careful :=
  (careful_openFile path flags).bind fun f => (sure_allocate f).bind fun _ => sure_pure _

theorem careful_stat (path : String) : (stat path).Careful := by
  refine (silent_resolve path).bind fun target => silent_get.bind fun p => ?_
  split
  · exact careful_pure _
  · split
    · exact careful_pure _
    · split
      · exact careful_pure _
      · split <;> exact careful_throw _

theorem careful_mkdir (path : String) : (mkdir path).Careful := by
  refine silent_get.bind fun p => ?_
  split
  · exact careful_throw _
  · split
    · exact careful_throw _
    · split
      · exact careful_throw _
      · exact (telling_insertDirectory _).bind (sure_pure _) (careful_throw _)

theorem careful_rmdir (path : String) : (rmdir path).Careful := by
  refine (silent_resolve path).bind fun target => silent_get.bind fun p => ?_
  split
  · exact careful_throw _
  · refine (telling_eraseDirectory target).bind (sure_pure _) ?_
    rw [if_neg Bool.false_ne_true]
    split <;> exact careful_throw _

theorem careful_unlink (path : String) : (unlink path).Careful :=
  (telling_eraseLink _).bind (sure_pure _) (careful_throw _)

theorem careful_readlink (path : String) : (readlink path).Careful := by
  refine silent_get.bind fun p => ?_
  split
  · exact careful_pure _
  · exact careful_throw _

/-! ### The same as the process does -/

/-- The outcome of a change of the file system, and the process after it. -/
def changed (p : Process) : Except CallError FileSystem → Except CallError Reply × Process
  | .ok tree => (.ok .done, { p with tree })
  | .error e => (.error e, p)

theorem on_openDevice (target path : String) (p : Process) :
    (openDevice target path).on p =
      match p.tree.devices.open? target with
      | some (f, devices) => (.ok f, { p with tree := { p.tree with devices } })
      | none => (.error (.notFound path), p) := by
  unfold openDevice Devices.open?
  cases Device.ofPath? target with
  | none => rfl
  | some d => cases d <;> rfl

theorem on_openTemp (target : String) (flags : OpenFlags) (p : Process) :
    (openTemp target flags).on p =
      (.ok (p.tree.openTemp p.store target flags).1,
        { p with
          tree := (p.tree.openTemp p.store target flags).2.1
          store := (p.tree.openTemp p.store target flags).2.2 }) := by
  unfold openTemp FileSystem.openTemp
  by_cases hempty : flags.truncate = true ∧ flags.write = true
  · simp only [if_pos hempty]
    rfl
  · simp only [if_neg hempty]
    rfl

theorem on_openFile (path : String) (flags : OpenFlags) (p : Process) :
    (openFile path flags).on p =
      match p.tree.open_ p.store path flags p.tmpDir with
      | .ok (f, tree, store) => (.ok f, { p with tree, store })
      | .error e => (.error e, p) := by
  unfold openFile FileSystem.open_
  rw [on_resolve_bind]
  cases p.tree.links.resolve path with
  | error e => rfl
  | ok target =>
    dsimp only [bind, Except.bind]
    change (if Path.isUnder target p.tmpDir = true then _ else _ : InPlace OpenFile).on p = _
    split
    · split
      · rfl
      · exact on_openTemp target flags p
    · rw [on_openDevice]
      cases p.tree.devices.open? target <;> rfl

theorem turn_open (path : String) (flags : OpenFlags) (p : Process) :
    (open_ path flags).turn p = p.startOpen path flags := by
  unfold turn open_ startOpen
  rw [on_bind, on_openFile]
  cases p.tree.open_ p.store path flags p.tmpDir <;> rfl

theorem on_stat (path : String) (p : Process) :
    (stat path).on p = ((p.tree.stat p.store path p.tmpDir).map .stat, p) := by
  unfold stat FileSystem.stat
  rw [on_resolve_bind]
  cases p.tree.links.resolve path with
  | error e => rfl
  | ok target =>
    dsimp only
    rw [on_get_bind]
    dsimp only [bind, Except.bind]
    split
    · rfl
    · cases p.tree.temps.find? target with
      | some id => rfl
      | none =>
        cases Devices.stat? target with
        | some st => rfl
        | none =>
          dsimp only
          split <;> rfl

theorem on_mkdir (path : String) (p : Process) :
    (mkdir path).on p = changed p (p.tree.makeDirectory path p.tmpDir) := by
  unfold mkdir FileSystem.makeDirectory
  dsimp only
  rw [on_get_bind]
  split
  · rfl
  · split
    · rfl
    · by_cases htemp : p.tree.temps.contains (Path.trim path) = true
      · rw [if_pos htemp, if_pos (Or.inl htemp)]
        rfl
      · rw [if_neg htemp]
        by_cases hmem : Path.trim path ∈ p.tree.directories
        · have htold : ((insertDirectory (Path.trim path)).on p).1 = .ok false :=
            congrArg Except.ok (decide_eq_false (not_not_intro hmem))
          rw [(telling_insertDirectory _).on_bind_idle htold, if_pos (Or.inr hmem)]
          rfl
        · have htold : ((insertDirectory (Path.trim path)).on p).1 = .ok true :=
            congrArg Except.ok (decide_eq_true hmem)
          rw [on_bind_of_ok htold, if_neg (not_or_intro htemp hmem)]
          change _ = (Except.ok Reply.done, _)
          rw [← List.insert_of_not_mem hmem]
          rfl

theorem on_rmdir (path : String) (p : Process) :
    (rmdir path).on p = changed p (p.tree.removeDirectory path p.tmpDir) := by
  unfold rmdir FileSystem.removeDirectory
  rw [on_resolve_bind]
  cases p.tree.links.resolve path with
  | error e => rfl
  | ok target =>
    dsimp only
    rw [on_get_bind]
    dsimp only [bind, Except.bind]
    split
    · rfl
    · by_cases hmem : target ∈ p.tree.directories
      · have htold : ((eraseDirectory target).on p).1 = .ok true :=
          congrArg Except.ok (decide_eq_true hmem)
        change ((eraseDirectory target) >>= _).on p = _
        rw [on_bind_of_ok htold, if_pos hmem]
        rfl
      · have htold : ((eraseDirectory target).on p).1 = .ok false :=
          congrArg Except.ok (decide_eq_false hmem)
        change ((eraseDirectory target) >>= _).on p = _
        rw [(telling_eraseDirectory _).on_bind_idle htold, if_neg hmem, if_neg Bool.false_ne_true]
        split <;> rfl

theorem on_unlink (path : String) (p : Process) :
    (unlink path).on p = changed p (p.tree.unlink path) := by
  unfold unlink FileSystem.unlink
  cases hlink : p.tree.links.contains (Path.trim path) with
  | true =>
    have htold : ((eraseLink (Path.trim path)).on p).1 = .ok true := congrArg Except.ok hlink
    rw [on_bind_of_ok htold]
    rfl
  | false =>
    have htold : ((eraseLink (Path.trim path)).on p).1 = .ok false := congrArg Except.ok hlink
    rw [(telling_eraseLink _).on_bind_idle htold]
    rfl

theorem on_readlink (path : String) (p : Process) :
    (readlink path).on p = ((p.tree.readLink path).map .text, p) := by
  unfold readlink FileSystem.readLink
  rw [on_get_bind]
  cases p.tree.links.find? (Path.trim path) <;> rfl

theorem turn_of_changed {m : InPlace Reply} {p : Process} {r : Except CallError FileSystem}
    (h : m.on p = changed p r) : m.turn p = p.onTree r := by
  rw [turn, h]
  cases r <;> rfl

end InPlace

/-- A call that fails half way through would leave what it has changed; none does. -/
theorem PathCall.careful (c : PathCall) : c.inPlace.Careful := by
  cases c with
  | open_ path flags => exact InPlace.careful_open path flags
  | stat path => exact InPlace.careful_stat path
  | mkdir path => exact InPlace.careful_mkdir path
  | rmdir path => exact InPlace.careful_rmdir path
  | unlink path => exact InPlace.careful_unlink path
  | readlink path => exact InPlace.careful_readlink path

theorem PathCall.turn_inPlace (c : PathCall) (p : Process) :
    c.inPlace.turn p = p.start c.syscall := by
  cases c with
  | open_ path flags => exact InPlace.turn_open path flags p
  | stat path => exact congrArg (fun r => Turn.result r.2 r.1) (InPlace.on_stat path p)
  | mkdir path => exact InPlace.turn_of_changed (InPlace.on_mkdir path p)
  | rmdir path => exact InPlace.turn_of_changed (InPlace.on_rmdir path p)
  | unlink path => exact InPlace.turn_of_changed (InPlace.on_unlink path p)
  | readlink path => exact congrArg (fun r => Turn.result r.2 r.1) (InPlace.on_readlink path p)

/-- A call on a path is answered by steps that keep what they change even when they give up, and
yet a call that fails, with whatever error, leaves the process as it was. -/
theorem failed_path_call_changes_nothing (p : Process) (c : PathCall) :
    p.start c.syscall = c.inPlace.turn p ∧
    ∀ e, (p.start c.syscall).progress = .done (.error e) →
      (p.start c.syscall).state = p ∧ (p.start c.syscall).effects = [] := by
  rw [← c.turn_inPlace p]
  refine ⟨rfl, fun e he => ⟨?_, rfl⟩⟩
  exact c.careful p e (Progress.done.inj he)

/-- Opening fails on links that go in a circle, which is fatal, and the temp file that was there
is still there. -/
theorem failed_path_call_changes_nothing_on_circle :
    let p := (create {}).run [.call (.open_ "/tmp/kept" .writeOnly),
      .call (.symlink "/tmp/a" "/tmp/b"), .call (.symlink "/tmp/b" "/tmp/a")]
    let c := PathCall.open_ "/tmp/a" .writeOnly
    (CallError.symlinkCycle "/tmp/a").isFatal = true ∧
    (p.start c.syscall).progress = .done (.error (.symlinkCycle "/tmp/a")) ∧
    (p.start c.syscall).state = p ∧ p.tree.temps.keys = ["/tmp/kept"] := by
  intro p c
  have hfails : (p.start c.syscall).progress = .done (.error (.symlinkCycle "/tmp/a")) := rfl
  exact ⟨by decide, hfails, ((failed_path_call_changes_nothing p c).2 _ hfails).1, by decide⟩

end Process

end SyscallBridge
