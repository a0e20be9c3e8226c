import SyscallBridge.Proofs.File.Refusal

/-!
# Access of handles

What a handle may do is settled when it is made. No call on any file changes it, and a handle that
may not read or may not write refuses every call that would.
-/

namespace SyscallBridge

/-- Whether a temp handle is for reading and whether it is for writing. -/
def OpenFile.access? : OpenFile → Option (Bool × Bool)
  | temp h => some (h.readable, h.writable)
  | _ => none

theorem OpenFile.access?_of_socket? {f : OpenFile} (h : f.socket?.isSome) : f.access? = none := by
  cases f with
  | socket s => rfl
  | console | random | fixed | temp | unsupported => cases h

def FileCall.reads : FileCall → Bool
  | read _ | readAt .. => true
  | stat | write .. | seek _ | writeAt .. | close => false

namespace TempHandle

variable {h : TempHandle}

theorem readable_of_checkReadable (hcheck : h.checkReadable = .ok ()) : h.readable = true := by
  obtain ⟨_, -, haccess⟩ := exists_ok_of_bind hcheck
  split at haccess
  · next hreadable => exact hreadable
  · cases haccess

theorem write_access (h : TempHandle) (bytes data : Bytes) :
    ((h.write bytes data).1.readable, (h.write bytes data).1.writable) =
      (h.readable, h.writable) := by
  have hwrote := h.wrote bytes data
  generalize h.write bytes data = result at hwrote
  cases hwrote <;> rfl

end TempHandle

namespace FileStore

variable {fs fs' fs'' : FileStore} {id : Nat}

/-- A call that writes does not succeed on a handle that is not for writing. -/
theorem written?_of_readOnly {h : TempHandle} (hwrite : h.writable = false) (c : FileCall)
    (hdone : (fs.startTemp id h c).progress.succeeded = true) :
    h.written? (fs.bytes h.content) c = none := by
  have hcheck : h.checkWritable ≠ .ok () := by
    intro hok
    rw [(TempHandle.writable_of_checkWritable hok).2] at hwrite
    cases hwrite
  cases c with
  | stat | read | seek | readAt | close => rfl
  | write data source =>
    have hwrote := h.wrote (fs.bytes h.content) data
    simp only [startTemp] at hdone
    generalize h.write (fs.bytes h.content) data = result at hwrote hdone
    cases hwrote with
    | access | size => cases hdone
    | done hok => exact absurd hok hcheck
  | writeAt data offset =>
    simp only [startTemp] at hdone
    split at hdone
    · next hw =>
      obtain ⟨_, hok, -⟩ := exists_ok_of_bind hw
      exact absurd hok hcheck
    · cases hdone

/-- Nothing is read through a handle that is not for reading. -/
theorem startTemp_unreadable (fs : FileStore) (id : Nat) {h : TempHandle}
    (hread : h.readable = false) {c : FileCall} (hc : c.reads = true) :
    ∃ e, (fs.startTemp id h c).progress = .done (.error e) := by
  have hcheck : ∃ e, h.checkReadable = .error e := by
    cases hok : h.checkReadable with
    | error e => exact ⟨e, rfl⟩
    | ok u =>
      rw [TempHandle.readable_of_checkReadable hok] at hread
      cases hread
  obtain ⟨e, he⟩ := hcheck
  cases c with
  | read size =>
    have hfail : h.read (fs.bytes h.content) size = .error e := by
      rw [TempHandle.read, he]
      rfl
    exact ⟨e, by simp only [startTemp, hfail]; rfl⟩
  | readAt size offset =>
    have hfail : h.readAt (fs.bytes h.content) size offset = .error e := by
      rw [TempHandle.readAt, he]
      rfl
    exact ⟨e, by simp only [startTemp, hfail]; rfl⟩
  | stat | write | seek | writeAt | close => cases hc

/-! ### Access is kept -/

/-- Every file that there was still has the access it had. -/
structure AccessKept (fs fs' : FileStore) : Prop where
  nextFile : fs.nextFile ≤ fs'.nextFile
  access : ∀ id < fs.nextFile, (fs'.file id).access? = (fs.file id).access?

namespace AccessKept

theorem refl (fs : FileStore) : AccessKept fs fs := ⟨Nat.le_refl _, fun _ _ => rfl⟩

theorem trans (h : AccessKept fs fs') (h' : AccessKept fs' fs'') : AccessKept fs fs'' where
  nextFile := Nat.le_trans h.nextFile h'.nextFile
  access id hid := (h'.access id (Nat.lt_of_lt_of_le hid h.nextFile)).trans (h.access id hid)

theorem of_files (hfiles : fs'.files = fs.files) (hnext : fs'.nextFile = fs.nextFile) :
    AccessKept fs fs' where
  nextFile := Nat.le_of_eq hnext.symm
  access id _ := by rw [file, hfiles, file]

theorem add (fs : FileStore) (f : OpenFile) : AccessKept fs (fs.add f).2 where
  nextFile := Nat.le_succ _
  access id hid := by rw [file_add, if_neg (Nat.ne_of_lt hid)]

/-- A call on a file keeps the access of all if it keeps that of its own. -/
theorem touches (h : Touches id fs fs') (hown : (fs'.file id).access? = (fs.file id).access?) :
    AccessKept fs fs' where
  nextFile := Nat.le_of_eq h.nextFile.symm
  access other _ := by
    by_cases hid : other = id
    · rw [hid, hown]
    · rw [h.others other hid]

end AccessKept

theorem access?_set (fs : FileStore) (id : Nat) (f : OpenFile) :
    ((fs.set id f).file id).access? = f.access? := by
  rw [file_set, if_pos rfl]

theorem access?_startTemp {h : TempHandle} (hf : fs.file id = .temp h) (c : FileCall) :
    ((fs.startTemp id h c).state.file id).access? = some (h.readable, h.writable) := by
  have hsame : (fs.file id).access? = some (h.readable, h.writable) := by
    rw [hf]
    rfl
  cases c with
  | stat | readAt => exact hsame
  | close => exact access?_set fs id _
  | read size =>
    simp only [startTemp]
    split
    · next hr =>
      obtain ⟨-, rfl⟩ := TempHandle.read_eq_ok hr
      exact access?_set fs id _
    · exact hsame
  | seek target =>
    simp only [startTemp]
    split
    · next hs =>
      obtain ⟨cursor, -, rfl⟩ := TempHandle.seek_eq_ok hs
      exact access?_set fs id _
    · exact hsame
  | writeAt data offset =>
    simp only [startTemp]
    split <;> exact hsame
  | write data source =>
    have haccess := h.write_access (fs.bytes h.content) data
    simp only [startTemp]
    split
    · next hw =>
      rw [hw] at haccess
      exact (access?_set fs id _).trans (congrArg some haccess)
    · next hw =>
      rw [hw] at haccess
      exact (access?_set fs id _).trans (congrArg some haccess)

theorem accessKept_start (fs : FileStore) (id : Nat) (c : FileCall) :
    AccessKept fs (fs.start id c).state := by
  refine .touches (touches_start c) ?_
  rw [start]
  cases hf : fs.file id with
  | console sink => cases c <;> exact congrArg OpenFile.access? hf
  | random g =>
    cases c with
    | read | readAt => exact access?_set fs id _
    | stat | write | seek | writeAt | close => exact congrArg OpenFile.access? hf
  | fixed bytes cursor =>
    cases c with
    | read => exact access?_set fs id _
    | seek target =>
      simp only [startFixed]
      split
      · exact access?_set fs id _
      · exact congrArg OpenFile.access? hf
    | stat | write | readAt | writeAt | close => exact congrArg OpenFile.access? hf
  | temp h => exact access?_startTemp hf c
  | socket s =>
    cases c with
    | read | write | close => exact access?_set fs id _
    | stat | seek | readAt | writeAt => exact congrArg OpenFile.access? hf
  | unsupported => cases c <;> exact congrArg OpenFile.access? hf

end FileStore

end SyscallBridge
