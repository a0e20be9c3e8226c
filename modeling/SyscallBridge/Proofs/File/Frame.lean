import SyscallBridge.Proofs.File.Contents

/-!
# Calls keep other files

A call on a file opens none and keeps every file but its own; closing a file shows on it as
`OpenFile.closed` says, and on no other.
-/

namespace SyscallBridge

/-- A file once it is closed; what holds nothing stays as it is. -/
def OpenFile.closed : OpenFile → OpenFile
  | socket s => .socket (s.withEndpoint .closed)
  | temp h => .temp { h with closed := true }
  | f => f

namespace FileStore

structure Touches (id : Nat) (fs fs' : FileStore) : Prop where
  nextFile : fs'.nextFile = fs.nextFile
  others : ∀ other, other ≠ id → fs'.file other = fs.file other

namespace Touches

variable {fs fs' : FileStore} {id : Nat}

theorem refl (id : Nat) (fs : FileStore) : Touches id fs fs := ⟨rfl, fun _ _ => rfl⟩

theorem set (f : OpenFile) : Touches id fs (fs.set id f) where
  nextFile := rfl
  others other hne := by rw [file_set, if_neg hne]

theorem setBytes (h : Touches id fs fs') (content : Nat) (bytes : Bytes) :
    Touches id fs (fs'.setBytes content bytes) := ⟨h.nextFile, h.others⟩

end Touches

variable {fs : FileStore} {id : Nat}

theorem touches_socketTurn (t : Socket.Step) : Touches id fs (fs.socketTurn id t).state := .set _

theorem touches_startTemp (h : TempHandle) (c : FileCall) :
    Touches id fs (fs.startTemp id h c).state := by
  cases c with
  | stat | readAt => exact .refl id fs
  | read size =>
    simp only [startTemp]
    split
    · exact .set _
    · exact .refl id fs
  | write data source =>
    simp only [startTemp]
    split
    · exact (Touches.set _).setBytes _ _
    · exact .set _
  | seek target =>
    simp only [startTemp]
    split
    · exact .set _
    · exact .refl id fs
  | writeAt data offset =>
    simp only [startTemp]
    split
    · exact (Touches.refl id fs).setBytes _ _
    · exact .refl id fs
  | close => exact .set _

theorem touches_start (c : FileCall) : Touches id fs (fs.start id c).state := by
  rw [start]
  cases fs.file id with
  | console sink => cases c <;> exact .refl id fs
  | random g =>
    cases c with
    | read | readAt => exact .set _
    | stat | write | seek | writeAt | close => exact .refl id fs
  | fixed bytes cursor =>
    cases c with
    | read => exact .set _
    | seek target =>
      simp only [startFixed]
      split
      · exact .set _
      · exact .refl id fs
    | stat | write | readAt | writeAt | close => exact .refl id fs
  | temp h => exact touches_startTemp h c
  | socket s =>
    cases c with
    | read | write | close => exact touches_socketTurn _
    | stat | seek | readAt | writeAt => exact .refl id fs
  | unsupported => cases c <;> exact .refl id fs

theorem touches_resumeSocket (q : SocketPending) (answer : Except HostFailure q.request.Answer) :
    Touches id fs (fs.resumeSocket id q answer).state := by
  rw [resumeSocket]
  split
  · exact touches_socketTurn _
  · exact .refl id fs

theorem touches_close (fs : FileStore) (id : Nat) : Touches id fs (fs.close id).1 :=
  touches_start .close

theorem file_close_self (fs : FileStore) (id : Nat) :
    (fs.close id).1.file id = (fs.file id).closed := by
  simp only [close, start]
  cases hf : fs.file id with
  | socket s => exact (file_set fs id _ id).trans (if_pos rfl)
  | temp h => exact (file_set fs id _ id).trans (if_pos rfl)
  | console | random | fixed | unsupported => exact hf

theorem file_close (fs : FileStore) (id other : Nat) :
    (fs.close id).1.file other = if other = id then (fs.file other).closed else fs.file other := by
  by_cases h : other = id
  · rw [if_pos h, h]
    exact file_close_self fs id
  · rw [if_neg h]
    exact (touches_close fs id).others other h

end FileStore

end SyscallBridge
