import SyscallBridge.File.Payload
import SyscallBridge.Proofs.File.Frame

/-!
# Refused writes

A write through a handle is refused when the handle is closed or not for writing, and when its
bytes would come to lie past the largest size. No refused write changes a content or another file,
and its own handle stays as it was but for one case: an appending handle goes to the end before the
size is looked at, and stays there. So what it would have read before is not read after.
-/

namespace SyscallBridge

def FileCall.writes : FileCall → Bool
  | write .. | writeAt .. => true
  | stat | read _ | seek _ | readAt .. | close => false

def FileCall.writesAtCursor : FileCall → Bool
  | write .. => true
  | stat | read _ | seek _ | readAt .. | writeAt .. | close => false

namespace TempHandle

/-- Why a write through a handle is refused. -/
inductive Refuses (h : TempHandle) (bytes : Bytes) (c : FileCall) : CallError → Prop where
  | closed (closed : h.closed = true) : Refuses h bytes c (.invalidState "file is closed")
  | access (isOpen : h.closed = false) (access : h.writable = false) :
    Refuses h bytes c (.notOpenFor "writing")
  | size (isOpen : h.closed = false) (access : h.writable = true) (w : TempWrite)
    (write : h.written? bytes c = some w) (large : maxFileSize < w.stop) :
    Refuses h bytes c tooLarge

/-- The handle after a refused write. -/
def refused (h : TempHandle) (bytes : Bytes) (c : FileCall) (e : CallError) : TempHandle :=
  if c.writesAtCursor ∧ h.append ∧ e = tooLarge then { h with cursor := bytes.length } else h

variable {h h' : TempHandle} {bytes data : Bytes} {c : FileCall} {offset : Nat} {e : CallError}

/-- An error of the access check is a reason to refuse, and not the one of the size. -/
theorem refuses_of_checkWritable (hcheck : h.checkWritable = .error e) :
    h.Refuses bytes c e ∧ e ≠ tooLarge := by
  cases hclosed : h.closed with
  | true =>
    rw [checkWritable_of_closed hclosed] at hcheck
    cases hcheck
    exact ⟨.closed hclosed, nofun⟩
  | false =>
    rw [checkWritable_of_open hclosed] at hcheck
    cases haccess : h.writable with
    | true =>
      rw [if_pos haccess] at hcheck
      cases hcheck
    | false =>
      rw [if_neg (haccess ▸ Bool.false_ne_true)] at hcheck
      cases hcheck
      exact ⟨.access hclosed haccess, nofun⟩

theorem writable_of_checkWritable {u : Unit} (hcheck : h.checkWritable = .ok u) :
    h.closed = false ∧ h.writable = true := by
  cases hclosed : h.closed with
  | true =>
    rw [checkWritable_of_closed hclosed] at hcheck
    cases hcheck
  | false =>
    rw [checkWritable_of_open hclosed] at hcheck
    split at hcheck
    · next haccess => exact ⟨rfl, haccess⟩
    · cases hcheck

theorem refused_of_ne (hne : e ≠ tooLarge) : h.refused bytes c e = h :=
  if_neg fun hall => hne hall.2.2

/-- With the handle open and for writing the size alone counts. -/
theorem refuses_of_size (hcheck : h.checkWritable = .ok ())
    (hwrites : data ≠ [] → h.written? bytes c = some ⟨offset, data⟩)
    (hw : SyscallBridge.writeAt bytes data offset = .error e) :
    h.Refuses bytes c e ∧ e = tooLarge := by
  obtain ⟨hopen, haccess⟩ := writable_of_checkWritable hcheck
  obtain ⟨hne, hlarge, rfl⟩ := writeAt_eq_error_iff.mp hw
  exact ⟨.size hopen haccess ⟨offset, data⟩ (hwrites hne) hlarge, rfl⟩

theorem writeAt_error (hw : h.writeAt bytes data offset = .error e) :
    h.Refuses bytes (.writeAt data offset) e ∧ h.refused bytes (.writeAt data offset) e = h := by
  refine ⟨?_, if_neg fun hall => absurd hall.1 nofun⟩
  unfold writeAt at hw
  cases hcheck : h.checkWritable with
  | error e' =>
    rw [hcheck] at hw
    cases hw
    exact (refuses_of_checkWritable hcheck).1
  | ok u =>
    rw [hcheck] at hw
    exact (refuses_of_size (c := .writeAt data offset) hcheck (fun hne => if_neg hne) hw).1

/-- Only for its size is a write refused when an appending handle has gone to the end. -/
theorem write_error (source : String) (hw : h.write bytes data = (h', .error e)) :
    h.Refuses bytes (.write data source) e ∧ h' = h.refused bytes (.write data source) e := by
  have hwrote := h.wrote bytes data
  rw [hw] at hwrote
  cases hwrote with
  | access _ hcheck =>
    obtain ⟨hrefuses, hne⟩ := refuses_of_checkWritable (c := .write data source) hcheck
    exact ⟨hrefuses, (refused_of_ne hne).symm⟩
  | size hcheck _ hlarge =>
    obtain ⟨hrefuses, rfl⟩ := refuses_of_size (c := .write data source) hcheck
      (fun hne => if_neg hne) hlarge
    refine ⟨hrefuses, ?_⟩
    simp only [refused, position, FileCall.writesAtCursor, and_true, true_and]
    split <;> rfl

end TempHandle

namespace FileStore

/-- After the call the handle is `h'`, and all else is as it was. -/
structure LeavesHandle (fs : FileStore) (id : Nat) (c : FileCall) (h' : TempHandle) : Prop where
  contents : (fs.start id c).state.contents = fs.contents
  handle : (fs.start id c).state.file id = .temp h'
  others : ∀ other ≠ id, (fs.start id c).state.file other = fs.file other

variable {fs : FileStore} {id : Nat} {h h' : TempHandle} {c : FileCall} {e : CallError}

theorem leavesHandle_of_set (hturn : fs.start id c = .fail (fs.set id (.temp h')) e) :
    fs.LeavesHandle id c h' := by
  refine ⟨?_, ?_, fun other hne => ?_⟩ <;> rw [hturn]
  · rfl
  · exact (file_set fs id _ id).trans (if_pos rfl)
  · exact (file_set fs id _ other).trans (if_neg hne)

theorem leavesHandle_of_same (hfile : fs.file id = .temp h) (hturn : fs.start id c = .fail fs e) :
    fs.LeavesHandle id c h := by
  refine ⟨?_, ?_, fun other _ => ?_⟩ <;> rw [hturn]
  · rfl
  · exact hfile
  · rfl

theorem error_eq_of_fail {fs' : FileStore} {e' : CallError} (hturn : fs.start id c = .fail fs' e')
    (hfails : (fs.start id c).progress = .done (.error e)) : e' = e := by
  rw [hturn] at hfails
  exact Except.error.inj (Progress.done.inj hfails)

theorem refused_write (hfile : fs.file id = .temp h) {data : Bytes} {source : String}
    (hfails : (fs.start id (.write data source)).progress = .done (.error e)) :
    h.Refuses (fs.bytes h.content) (.write data source) e ∧
      fs.LeavesHandle id (.write data source)
        (h.refused (fs.bytes h.content) (.write data source) e) := by
  have hstart : fs.start id (.write data source) = fs.startTemp id h (.write data source) := by
    rw [start, hfile]
  cases hw : h.write (fs.bytes h.content) data with
  | mk h' r =>
    cases r with
    | ok bytes =>
      rw [hstart, startTemp, hw] at hfails
      cases hfails
    | error e' =>
      have hturn : fs.start id (.write data source) = .fail (fs.set id (.temp h')) e' := by
        rw [hstart, startTemp, hw]
      obtain rfl := error_eq_of_fail hturn hfails
      obtain ⟨hrefuses, rfl⟩ := TempHandle.write_error source hw
      exact ⟨hrefuses, leavesHandle_of_set hturn⟩

theorem refused_writeAt (hfile : fs.file id = .temp h) {data : Bytes} {offset : Nat}
    (hfails : (fs.start id (.writeAt data offset)).progress = .done (.error e)) :
    h.Refuses (fs.bytes h.content) (.writeAt data offset) e ∧
      fs.LeavesHandle id (.writeAt data offset)
        (h.refused (fs.bytes h.content) (.writeAt data offset) e) := by
  have hstart : fs.start id (.writeAt data offset) = fs.startTemp id h (.writeAt data offset) := by
    rw [start, hfile]
  cases hw : h.writeAt (fs.bytes h.content) data offset with
  | ok bytes =>
    rw [hstart, startTemp, hw] at hfails
    cases hfails
  | error e' =>
    have hturn : fs.start id (.writeAt data offset) = .fail fs e' := by
      rw [hstart, startTemp, hw]
    obtain rfl := error_eq_of_fail hturn hfails
    obtain ⟨hrefuses, hsame⟩ := TempHandle.writeAt_error hw
    rw [hsame]
    exact ⟨hrefuses, leavesHandle_of_same hfile hturn⟩

/-- A refused write has a reason and changes no content and no other file. It leaves its own handle
as it was, unless it is a write at the cursor of an appending handle and is refused for its size:
then the cursor is at the end. -/
theorem refused_write_keeps_contents (fs : FileStore) (id : Nat) (h : TempHandle) (c : FileCall)
    (e : CallError) (hfile : fs.file id = .temp h) (hwrites : c.writes = true)
    (hfails : (fs.start id c).progress = .done (.error e)) :
    h.Refuses (fs.bytes h.content) c e ∧
      fs.LeavesHandle id c (h.refused (fs.bytes h.content) c e) := by
  cases c with
  | write data source => exact refused_write hfile hfails
  | writeAt data offset => exact refused_writeAt hfile hfails
  | stat | read | seek | readAt | close => cases hwrites

/-- A file of three bytes, and an appending handle on it that stands before them. -/
def threeBytes : FileStore :=
  let fs := (({} : FileStore).addContent "/tmp/a").2
  let flags : OpenFlags := { read := true, write := true, append := true }
  ((fs.add (.temp (.open_ 0 flags))).2.start 0 (.writeAt [97, 98, 99] 0)).state

/-- More bytes than any file may have. -/
def tooMany : Payload := ⟨[97], maxFileSize + 1⟩

theorem refused_write_keeps_contents_appending :
    let c := FileCall.write tooMany.bytes ""
    (threeBytes.start 0 c).progress = .done (.error tooLarge) ∧
    threeBytes.file 0 = .temp ⟨0, true, true, true, 0, false⟩ ∧
    (threeBytes.start 0 c).state.file 0 = .temp ⟨0, true, true, true, 3, false⟩ ∧
    (threeBytes.start 0 c).state.contents = threeBytes.contents := by
  intro c
  have hfile : threeBytes.file 0 = .temp ⟨0, true, true, true, 0, false⟩ := rfl
  have hfails : (threeBytes.start 0 c).progress = .done (.error tooLarge) := by
    rw [← startWrite_eq]
    rfl
  obtain ⟨-, hleft⟩ :=
    refused_write_keeps_contents threeBytes 0 _ c tooLarge hfile rfl hfails
  exact ⟨hfails, hfile, hleft.handle, hleft.contents⟩

/-- A handle that appends and stands before three bytes reads them; after a refused write it reads
nothing. -/
theorem refused_write_moves_cursor :
    let refused := threeBytes.start 0 (.write tooMany.bytes "")
    refused.progress = .done (.error tooLarge) ∧
    (threeBytes.start 0 (.read 8)).progress = .done (.ok (.data [97, 98, 99])) ∧
    (refused.state.start 0 (.read 8)).progress = .done (.ok (.data [])) := by
  simp only [← startWrite_eq]
  exact ⟨rfl, rfl, rfl⟩

end FileStore

end SyscallBridge
