import SyscallBridge.FileSystem.Tree
import SyscallBridge.Proofs.File.WriteLog

/-!
# Contents of temp files

Handles and the file system name the content of a temp file by a number. `Indexed` ties the two
together: a number belongs to one path, and every handle has a content. A call on a file either
keeps all contents or is a write through a temp handle, and then one content has the bytes of that
write spliced in.
-/

namespace SyscallBridge

/-- What succeeds has succeeded in its first part, and then in the rest. -/
theorem exists_ok_of_bind {ε α β : Type} {first : Except ε α} {rest : α → Except ε β} {b : β}
    (h : (first >>= rest) = .ok b) : ∃ a, first = .ok a ∧ rest a = .ok b := by
  cases hf : first with
  | error e =>
    rw [hf] at h
    cases h
  | ok a =>
    rw [hf] at h
    exact ⟨a, rfl, h⟩

namespace FileStore

theorem file_add (fs : FileStore) (f : OpenFile) (id : Nat) :
    (fs.add f).2.file id = if id = fs.nextFile then f else fs.file id := by
  simp only [add, file, Assoc.find?_insert]
  split <;> rfl

theorem file_set (fs : FileStore) (id : Nat) (f : OpenFile) (other : Nat) :
    (fs.set id f).file other = if other = id then f else fs.file other := by
  simp only [set, file, Assoc.find?_insert]
  split <;> rfl

theorem find?_setBytes (fs : FileStore) (id : Nat) (bytes : Bytes) (other : Nat) :
    (fs.setBytes id bytes).contents.find? other =
      if other = id then (fs.contents.find? id).map fun c => { c with bytes }
      else fs.contents.find? other := by
  simp only [setBytes, Assoc.find?_modify]

/-- No content changes, and a temp handle is on a content that one was on before. -/
structure TempsKept (fs fs' : FileStore) : Prop where
  contents : ∀ id, fs'.contents.find? id = fs.contents.find? id
  nextContent : fs'.nextContent = fs.nextContent
  handles : ∀ id h, fs'.file id = .temp h →
    ∃ id' h', fs.file id' = .temp h' ∧ h'.content = h.content

namespace TempsKept

variable {fs fs' fs'' : FileStore}

theorem refl (fs : FileStore) : TempsKept fs fs where
  contents _ := rfl
  nextContent := rfl
  handles id h hf := ⟨id, h, hf, rfl⟩

theorem trans (h : TempsKept fs fs') (h' : TempsKept fs' fs'') : TempsKept fs fs'' where
  contents id := (h'.contents id).trans (h.contents id)
  nextContent := h'.nextContent.trans h.nextContent
  handles id x hx := by
    obtain ⟨id', x', hx', hc'⟩ := h'.handles id x hx
    obtain ⟨id'', x'', hx'', hc''⟩ := h.handles id' x' hx'
    exact ⟨id'', x'', hx'', hc''.trans hc'⟩

theorem add {f : OpenFile} (hf : ∀ h, f ≠ .temp h) : TempsKept fs (fs.add f).2 where
  contents _ := rfl
  nextContent := rfl
  handles id h hx := by
    rw [file_add] at hx
    split at hx
    · exact absurd hx (hf h)
    · exact ⟨id, h, hx, rfl⟩

theorem set {id : Nat} {f : OpenFile} (hf : ∀ h, f ≠ .temp h) : TempsKept fs (fs.set id f) where
  contents _ := rfl
  nextContent := rfl
  handles other h hx := by
    rw [file_set] at hx
    split at hx
    · exact absurd hx (hf h)
    · exact ⟨other, h, hx, rfl⟩

theorem set_temp {id : Nat} {h h' : TempHandle} (hf : fs.file id = .temp h)
    (hc : h'.content = h.content) : TempsKept fs (fs.set id (.temp h')) where
  contents _ := rfl
  nextContent := rfl
  handles other x hx := by
    rw [file_set] at hx
    split at hx
    · cases hx
      exact ⟨id, h, hf, hc.symm⟩
    · exact ⟨other, x, hx, rfl⟩

theorem setBytes_same {id : Nat} (fs : FileStore) :
    TempsKept fs (fs.setBytes id (fs.bytes id)) where
  contents other := by
    rw [find?_setBytes]
    split
    · rename_i heq
      rw [heq, bytes]
      cases fs.contents.find? id with
      | none => rfl
      | some c => rfl
    · rfl
  nextContent := rfl
  handles other h hx := ⟨other, h, hx, rfl⟩

theorem bytes (h : TempsKept fs fs') (id : Nat) : fs'.bytes id = fs.bytes id := by
  rw [FileStore.bytes, h.contents, FileStore.bytes]

end TempsKept

/-! ### Calls on files -/

theorem kept_socketTurn (fs : FileStore) (id : Nat) (t : Socket.Step) :
    TempsKept fs (fs.socketTurn id t).state := TempsKept.set fun h hx => by cases hx

/-- Only calls through temp handles touch contents. -/
theorem kept_start {fs : FileStore} {id : Nat} {c : FileCall}
    (ht : ∀ h, fs.file id = .temp h → TempsKept fs (fs.startTemp id h c).state) :
    TempsKept fs (fs.start id c).state := by
  rw [start]
  cases hf : fs.file id with
  | console sink => cases c <;> exact TempsKept.refl fs
  | random g =>
    cases c with
    | read size => exact TempsKept.set fun h hx => by cases hx
    | readAt size offset => exact TempsKept.set fun h hx => by cases hx
    | stat | write _ _ | seek _ | writeAt _ _ | close => exact TempsKept.refl fs
  | fixed bytes cursor =>
    cases c with
    | read size => exact TempsKept.set fun h hx => by cases hx
    | seek t =>
      simp only [startFixed]
      cases t.resolve cursor bytes.length with
      | ok n => exact TempsKept.set fun h hx => by cases hx
      | error e => exact TempsKept.refl fs
    | stat | readAt _ _ | write _ _ | writeAt _ _ | close => exact TempsKept.refl fs
  | temp h => exact ht h hf
  | socket s =>
    cases c with
    | read size => exact kept_socketTurn fs id _
    | write data source => exact kept_socketTurn fs id _
    | close => exact kept_socketTurn fs id _
    | stat | seek _ | readAt _ _ | writeAt _ _ => exact TempsKept.refl fs
  | unsupported => cases c <;> exact TempsKept.refl fs

end FileStore

/-! ### Reads and writes through a handle -/

/-- The reply has the bytes from a position on, as many as there are but no more than asked for. -/
def ReadsAt (bytes : Bytes) (position size : Nat) (r : Reply) : Prop :=
  ∃ got, r = .data got ∧ got.length = min size (bytes.length - position) ∧
    ∀ i, i < got.length → got[i]? = bytes[position + i]?

theorem readsAt_window (bytes : Bytes) (position size : Nat) :
    ReadsAt bytes position size (.data (bytes.window position size)) := by
  refine ⟨_, rfl, Bytes.length_window bytes position size, fun i hi => ?_⟩
  rw [Bytes.length_window] at hi
  rw [Bytes.window, List.getElem?_take_of_lt (by omega), List.getElem?_drop]

/-- The call has its result, and it is no error. -/
def Progress.succeeded {ρ π : Type} : Progress ρ π → Bool
  | done (.ok _) => true
  | _ => false

theorem writeAt_ok {bytes data bytes' : Bytes} {offset : Nat}
    (h : writeAt bytes data offset = .ok bytes') :
    (data = [] ∧ bytes' = bytes) ∨ (data ≠ [] ∧ bytes' = splice bytes data offset) := by
  unfold writeAt at h
  split at h
  · rename_i hnil
    cases h
    exact Or.inl ⟨hnil, rfl⟩
  · rename_i hne
    split at h
    · cases h
      exact Or.inr ⟨hne, rfl⟩
    · cases h

namespace TempHandle

/-- Where a write through a handle goes: at the end if the handle appends, else at the cursor. -/
def position (h : TempHandle) (bytes : Bytes) : Nat := if h.append then bytes.length else h.cursor

/-- What a call writes if it succeeds. -/
def written? (h : TempHandle) (bytes : Bytes) : FileCall → Option TempWrite
  | .write data _ => if data = [] then none else some ⟨h.position bytes, data⟩
  | .writeAt data offset => if data = [] then none else some ⟨offset, data⟩
  | _ => none

theorem content_write (h : TempHandle) (bytes data : Bytes) :
    (h.write bytes data).1.content = h.content := by
  unfold write
  split
  · rfl
  · dsimp only
    split
    · split <;> rfl
    · split <;> rfl

theorem write_ok {h h' : TempHandle} {bytes data bytes' : Bytes}
    (hw : h.write bytes data = (h', .ok bytes')) :
    SyscallBridge.writeAt bytes data (h.position bytes) = .ok bytes' := by
  unfold write at hw
  split at hw
  · cases hw
  · have hcursor : (if h.append = true then { h with cursor := bytes.length } else h).cursor =
        h.position bytes := by
      unfold position
      split <;> rfl
    dsimp only at hw
    rw [hcursor] at hw
    split at hw
    · cases hw
    · rename_i hok
      cases hw
      exact hok

/-- What a write through a handle comes to: the access is refused, or the handle goes to where it
writes and the size is refused, or the bytes are written. -/
inductive Wrote (h : TempHandle) (bytes data : Bytes) :
    TempHandle × Except CallError Bytes → Prop where
  | access (e : CallError) (check : h.checkWritable = .error e) : Wrote h bytes data (h, .error e)
  | size (check : h.checkWritable = .ok ()) (e : CallError)
    (large : SyscallBridge.writeAt bytes data (h.position bytes) = .error e) :
    Wrote h bytes data ({ h with cursor := h.position bytes }, .error e)
  | done (check : h.checkWritable = .ok ()) (bytes' : Bytes)
    (fits : SyscallBridge.writeAt bytes data (h.position bytes) = .ok bytes') :
    Wrote h bytes data ({ h with cursor := h.position bytes + data.length }, .ok bytes')

theorem wrote (h : TempHandle) (bytes data : Bytes) : Wrote h bytes data (h.write bytes data) := by
  have hmoved : (if h.append then { h with cursor := bytes.length } else h) =
      { h with cursor := h.position bytes } := by
    unfold position
    split <;> rfl
  unfold write
  split
  · next e hcheck => exact .access e hcheck
  · next hcheck =>
    rw [hmoved]
    dsimp only
    split
    · next e hlarge => exact .size hcheck e hlarge
    · next bytes' hfits => exact .done hcheck bytes' hfits

theorem read_eq_ok {h h' : TempHandle} {bytes got : Bytes} {size : Nat}
    (hr : h.read bytes size = .ok (got, h')) :
    got = bytes.window h.cursor size ∧ h' = { h with cursor := h.cursor + got.length } := by
  unfold read at hr
  obtain ⟨_, -, hgot⟩ := exists_ok_of_bind hr
  cases hgot
  exact ⟨rfl, rfl⟩

theorem seek_eq_ok {h h' : TempHandle} {bytes : Bytes} {t : SeekTarget}
    (hs : h.seek bytes t = .ok h') :
    ∃ cursor, t.resolve h.cursor bytes.length = .ok cursor ∧ h' = { h with cursor } := by
  unfold seek at hs
  obtain ⟨_, -, hresolve⟩ := exists_ok_of_bind hs
  obtain ⟨cursor, hcursor, hmoved⟩ := exists_ok_of_bind hresolve
  cases hmoved
  exact ⟨cursor, hcursor, rfl⟩

theorem writeAt_eq_ok {h : TempHandle} {bytes data bytes' : Bytes} {offset : Nat}
    (hw : h.writeAt bytes data offset = .ok bytes') :
    SyscallBridge.writeAt bytes data offset = .ok bytes' := by
  unfold writeAt at hw
  obtain ⟨_, -, hok⟩ := exists_ok_of_bind hw
  exact hok

end TempHandle

namespace FileStore

/-- What a call through a temp handle comes to. -/
inductive TempTurn (fs : FileStore) (h : TempHandle) (c : FileCall) (t : Step) : Prop where
  | kept (kept : TempsKept fs t.state)
    (nothing : t.progress.succeeded = true → h.written? (fs.bytes h.content) c = none)
  | wrote (w : TempWrite) (mid : FileStore) (kept : TempsKept fs mid)
    (written : h.written? (fs.bytes h.content) c = some w) (done : t.progress.succeeded = true)
    (state : t.state = mid.setBytes h.content (splice (fs.bytes h.content) w.data w.offset))

theorem tempTurn {fs : FileStore} {id : Nat} {h : TempHandle} (hf : fs.file id = .temp h)
    (c : FileCall) : TempTurn fs h c (fs.startTemp id h c) := by
  -- the bytes that a successful write leaves, with `mid` the store that has the handle moved on
  have hwrite : ∀ (mid : FileStore) (data bytes' : Bytes) (offset : Nat) (t : Step),
      TempsKept fs mid → writeAt (fs.bytes h.content) data offset = .ok bytes' →
      h.written? (fs.bytes h.content) c = (if data = [] then none else some ⟨offset, data⟩) →
      t.progress.succeeded = true → t.state = mid.setBytes h.content bytes' →
      TempTurn fs h c t := by
    intro mid data bytes' offset t hmid hok hwritten hdone hstate
    rcases writeAt_ok hok with ⟨hnil, hsame⟩ | ⟨hne, hsplice⟩
    · rw [if_pos hnil] at hwritten
      refine .kept ?_ fun _ => hwritten
      rw [hstate, hsame, ← hmid.bytes]
      exact hmid.trans (TempsKept.setBytes_same mid)
    · rw [if_neg hne] at hwritten
      exact .wrote _ mid hmid hwritten hdone (hsplice ▸ hstate)
  cases c with
  | stat => exact .kept (TempsKept.refl fs) fun _ => rfl
  | readAt size offset => exact .kept (TempsKept.refl fs) fun _ => rfl
  | close => exact .kept (TempsKept.set_temp hf rfl) fun _ => rfl
  | read size =>
    refine .kept ?_ fun _ => rfl
    simp only [startTemp]
    cases hr : h.read (fs.bytes h.content) size with
    | ok found =>
      have hcontent : found.2.content = h.content := by
        rw [(TempHandle.read_eq_ok hr).2]
      exact TempsKept.set_temp hf hcontent
    | error e => exact TempsKept.refl fs
  | seek t =>
    refine .kept ?_ fun _ => rfl
    simp only [startTemp]
    cases hs : h.seek (fs.bytes h.content) t with
    | ok h' =>
      have hcontent : h'.content = h.content := by
        obtain ⟨cursor, -, hmoved⟩ := TempHandle.seek_eq_ok hs
        rw [hmoved]
      exact TempsKept.set_temp hf hcontent
    | error e => exact TempsKept.refl fs
  | write data source =>
    have hcontent := h.content_write (fs.bytes h.content) data
    simp only [startTemp]
    cases hw : h.write (fs.bytes h.content) data with
    | mk h' result =>
      rw [hw] at hcontent
      cases result with
      | error e => exact .kept (TempsKept.set_temp hf hcontent) fun hd => by cases hd
      | ok bytes' =>
        refine hwrite (fs.set id (.temp h')) data bytes' _ _ (TempsKept.set_temp hf hcontent)
          (TempHandle.write_ok hw) rfl rfl ?_
        change (fs.set id (.temp h')).setBytes h'.content bytes' = _
        rw [show h'.content = h.content from hcontent]
  | writeAt data offset =>
    simp only [startTemp]
    cases hw : h.writeAt (fs.bytes h.content) data offset with
    | error e => exact .kept (TempsKept.refl fs) fun hd => by cases hd
    | ok bytes' =>
      exact hwrite fs data bytes' offset _ (TempsKept.refl fs) (TempHandle.writeAt_eq_ok hw)
        rfl rfl rfl

theorem kept_close (fs : FileStore) (id : Nat) : TempsKept fs (fs.close id).1 := by
  refine kept_start fun h hf => ?_
  exact TempsKept.set_temp hf rfl

end FileStore

/-! ### Contents by path -/

namespace FileSystem

/-- The bytes at a path; a path that was never opened has none. -/
def tempBytes (t : FileSystem) (store : FileStore) (path : String) : Bytes :=
  ((t.temps.find? path).map store.bytes).getD []

/-- A content has one path and a path one content; every handle has a content. -/
structure Indexed (t : FileSystem) (store : FileStore) : Prop where
  index : ∀ path id, t.temps.find? path = some id ↔
    ∃ c, store.contents.find? id = some c ∧ c.path = path
  fresh : ∀ id c, store.contents.find? id = some c → id < store.nextContent
  handles : ∀ file h, store.file file = .temp h → ∃ c, store.contents.find? h.content = some c

namespace Indexed

variable {t t' : FileSystem} {store store' : FileStore}

theorem kept (h : Indexed t store) (ht : t'.temps = t.temps) (hs : store.TempsKept store') :
    Indexed t' store' where
  index path id := by
    rw [ht, hs.contents]
    exact h.index path id
  fresh id c hc := by
    rw [hs.nextContent]
    exact h.fresh id c (hs.contents id ▸ hc)
  handles file x hx := by
    obtain ⟨file', x', hx', hcontent⟩ := hs.handles file x hx
    rw [hs.contents, ← hcontent]
    exact h.handles file' x' hx'

theorem setBytes (h : Indexed t store) (id : Nat) (bytes : Bytes) :
    Indexed t (store.setBytes id bytes) where
  index path other := by
    rw [h.index, FileStore.find?_setBytes]
    split
    · rename_i heq
      rw [heq]
      cases store.contents.find? id with
      | none => simp only [reduceCtorEq, false_and, exists_false, Option.map_none]
      | some c => simp only [Option.some.injEq, exists_eq_left', Option.map_some]
    · exact Iff.rfl
  fresh other c hc := by
    rw [FileStore.find?_setBytes] at hc
    split at hc
    · rename_i heq
      obtain ⟨c', hc', -⟩ := Option.map_eq_some_iff.1 hc
      exact heq ▸ h.fresh id c' hc'
    · exact h.fresh other c hc
  handles file x hx := by
    obtain ⟨c, hc⟩ := h.handles file x hx
    rw [FileStore.find?_setBytes]
    split
    · rename_i heq
      exact ⟨{ c with bytes }, by rw [← heq, hc]; rfl⟩
    · exact ⟨c, hc⟩

theorem addContent (h : Indexed t store) {path : String} (hnone : t.temps.find? path = none) :
    Indexed { t with temps := t.temps.insert path store.nextContent }
      (store.addContent path).2 where
  index other id := by
    have hnew : ∀ c, ¬ store.contents.find? store.nextContent = some c := fun c hc =>
      absurd (h.fresh _ c hc) (Nat.lt_irrefl _)
    simp only [FileStore.addContent, Assoc.find?_insert]
    by_cases hp : other = path
    · rw [if_pos hp, hp]
      split
      · rename_i hid
        simp only [hid, Option.some.injEq, exists_eq_left']
      · rename_i hid
        have hold := h.index path id
        rw [hnone] at hold
        rw [← hold]
        simp only [Option.some.injEq, reduceCtorEq, iff_false]
        exact fun heq => hid heq.symm
    · rw [if_neg hp]
      split
      · rename_i hid
        rw [h.index, hid]
        simp only [Option.some.injEq, exists_eq_left']
        constructor
        · rintro ⟨c, hc, -⟩
          exact absurd hc (hnew c)
        · intro heq
          exact absurd heq.symm hp
      · exact h.index other id
  fresh id c hc := by
    simp only [FileStore.addContent, Assoc.find?_insert] at hc ⊢
    split at hc
    · rename_i hid
      omega
    · have hlt := h.fresh id c hc
      omega
  handles file x hx := by
    obtain ⟨c, hc⟩ := h.handles file x hx
    simp only [FileStore.addContent, Assoc.find?_insert]
    split
    · exact ⟨_, rfl⟩
    · exact ⟨c, hc⟩

theorem addHandle (h : Indexed t store) {x : TempHandle} {path : String}
    (hx : t.temps.find? path = some x.content) : Indexed t (store.add (.temp x)).2 where
  index := h.index
  fresh := h.fresh
  handles file y hy := by
    rw [FileStore.file_add] at hy
    split at hy
    · cases hy
      obtain ⟨c, hc, -⟩ := (h.index path x.content).1 hx
      exact ⟨c, hc⟩
    · exact h.handles file y hy

end Indexed

variable {t t' : FileSystem} {store store' : FileStore}

theorem tempBytes_kept (ht : t'.temps = t.temps) (hs : store.TempsKept store') (path : String) :
    t'.tempBytes store' path = t.tempBytes store path := by
  have hbytes : store'.bytes = store.bytes := funext hs.bytes
  rw [tempBytes, ht, hbytes, tempBytes]

theorem tempBytes_of_content (h : Indexed t store) {id : Nat} {c : TempContent}
    (hc : store.contents.find? id = some c) : t.tempBytes store c.path = store.bytes id := by
  have hpath := (h.index c.path id).2 ⟨c, hc, rfl⟩
  rw [tempBytes, hpath]
  rfl

/-- Setting the bytes of a content is seen at its path and nowhere else. -/
theorem tempBytes_setBytes (h : Indexed t store) {id : Nat} {c : TempContent}
    (hc : store.contents.find? id = some c) (bytes : Bytes) (path : String) :
    t.tempBytes (store.setBytes id bytes) path =
      if path = c.path then bytes else t.tempBytes store path := by
  have hset : ∀ other, (store.setBytes id bytes).bytes other =
      if other = id then bytes else store.bytes other := by
    intro other
    rw [FileStore.bytes, FileStore.find?_setBytes]
    split
    · rw [hc]
      rfl
    · rfl
  have hown := (h.index c.path id).2 ⟨c, hc, rfl⟩
  by_cases hp : path = c.path
  · rw [if_pos hp, tempBytes, hp, hown, Option.map_some, hset, if_pos rfl]
    rfl
  · rw [if_neg hp, tempBytes, tempBytes]
    cases hf : t.temps.find? path with
    | none => rfl
    | some other =>
      have hne : other ≠ id := by
        intro heq
        obtain ⟨c', hc', hpath⟩ := (h.index path other).1 hf
        rw [heq, hc] at hc'
        cases hc'
        exact hp hpath.symm
      rw [Option.map_some, hset, if_neg hne, Option.map_some]

theorem tempBytes_addContent (h : Indexed t store) {path : String}
    (hnone : t.temps.find? path = none) (other : String) :
    FileSystem.tempBytes { t with temps := t.temps.insert path store.nextContent }
      (store.addContent path).2 other = t.tempBytes store other := by
  have hbytes : ∀ id, (store.addContent path).2.bytes id =
      if id = store.nextContent then [] else store.bytes id := by
    intro id
    simp only [FileStore.bytes, FileStore.addContent, Assoc.find?_insert]
    split <;> rfl
  simp only [tempBytes, Assoc.find?_insert]
  by_cases hp : other = path
  · -- the new content is empty, and so was a path without one
    rw [if_pos hp, hp, hnone, Option.map_some, hbytes, if_pos rfl]
    rfl
  · rw [if_neg hp]
    cases hf : t.temps.find? other with
    | none => rfl
    | some id =>
      obtain ⟨c, hc, -⟩ := (h.index other id).1 hf
      have hne : id ≠ store.nextContent := Nat.ne_of_lt (h.fresh id c hc)
      rw [Option.map_some, hbytes, if_neg hne, Option.map_some]

/-- Opening a temp file gives a handle on the content of its path, and empties it if the handle is
to write and to truncate. -/
theorem openTemp_spec (h : Indexed t store) (path : String) (flags : OpenFlags) :
    ∃ id t' store', t.openTemp store path flags = (.temp (.open_ id flags), t', store') ∧
      t'.temps.find? path = some id ∧
      (∀ other c, t.temps.find? other = some c → t'.temps.find? other = some c) ∧
      t'.links = t.links ∧ Indexed t' store' ∧
      ∀ other, t'.tempBytes store' other =
        if flags.truncate ∧ flags.write ∧ other = path then [] else t.tempBytes store other := by
  have hcontent : ∃ id t' store', t.content store path = (id, t', store') ∧
      t'.temps.find? path = some id ∧
      (∀ other c, t.temps.find? other = some c → t'.temps.find? other = some c) ∧
      t'.links = t.links ∧ Indexed t' store' ∧
      ∀ other, t'.tempBytes store' other = t.tempBytes store other := by
    unfold content
    cases hf : t.temps.find? path with
    | some id => exact ⟨id, t, store, rfl, hf, fun _ _ hc => hc, rfl, h, fun _ => rfl⟩
    | none =>
      refine ⟨store.nextContent, _, _, rfl, ?_, fun other c hc => ?_, rfl, h.addContent hf,
        tempBytes_addContent h hf⟩
      · simp only [Assoc.find?_insert, if_true]
      · have hne : other ≠ path := by
          rintro rfl
          rw [hf] at hc
          cases hc
        rw [Assoc.find?_insert, if_neg hne, hc]
  obtain ⟨id, t', mid, hmade, hpath, htemps, hlinks, hindexed, hsame⟩ := hcontent
  obtain ⟨c, hc, hcpath⟩ := (hindexed.index path id).1 hpath
  simp only [openTemp, hmade]
  by_cases htrunc : flags.truncate ∧ flags.write
  · refine ⟨id, t', _, rfl, hpath, htemps, hlinks, ?_, ?_⟩
    · rw [if_pos htrunc]
      exact hindexed.setBytes id []
    · intro other
      rw [if_pos htrunc, tempBytes_setBytes hindexed hc, hcpath, hsame]
      simp only [htrunc.1, htrunc.2, true_and]
  · refine ⟨id, t', _, rfl, hpath, htemps, hlinks, ?_, ?_⟩
    · rw [if_neg htrunc]
      exact hindexed
    · intro other
      have hno : ¬ (flags.truncate = true ∧ flags.write = true ∧ other = path) :=
        fun hall => htrunc ⟨hall.1, hall.2.1⟩
      rw [if_neg htrunc, if_neg hno]
      exact hsame other

end FileSystem

end SyscallBridge
