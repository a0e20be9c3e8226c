import SyscallBridge.File.Payload
import SyscallBridge.Proofs.File.Frame

/-!
# Open temp files, told from their calls

An open temp file is its path, the flags it was opened with and a cursor. What a call on it does is
said here from these and from the writes to the path alone, with no bytes kept anywhere. A handle
of the store answers every call as the open file does and moves its cursor as the open file does.
-/

namespace SyscallBridge

structure OpenTemp where
  path : String
  flags : OpenFlags
  cursor : Nat := 0
  closed : Bool := false
  deriving DecidableEq, Repr

/-- What a call on an open file comes to: its answer, the file after it and what it writes. -/
structure TempOutcome where
  answer : Except CallError Reply
  file : OpenTemp
  written : Option TempWrite := none

/-- The bytes from a place on that some writes have left, as many as there are but no more than
asked for. -/
def bytesFrom (ws : List TempWrite) (place size : Nat) : Bytes :=
  (List.range (min size (extent ws - place))).map fun i => (latest? ws (place + i)).getD 0

theorem Shown.window {ws : List TempWrite} {bytes : Bytes} (h : Shown ws bytes)
    (place size : Nat) : bytes.window place size = bytesFrom ws place size := by
  have hlength : (bytes.window place size).length = min size (extent ws - place) := by
    rw [Bytes.length_window, h.length]
  refine List.ext_getElem ?_ fun i hi _ => ?_
  · rw [hlength, bytesFrom, List.length_map, List.length_range]
  · have hplace : place + i < bytes.length := by
      rw [h.length]
      omega
    simp only [Bytes.window, bytesFrom, List.getElem_take, List.getElem_drop, List.getElem_map,
      List.getElem_range]
    exact h.getElem _ hplace

namespace OpenTemp

def opened (x : OpenTemp) : Except CallError Unit :=
  if x.closed then .error (.invalidState "file is closed") else .ok ()

/-- Whether an open file may be used in a way that its flags have to allow. -/
def access (x : OpenTemp) (allowed : Bool) (use : String) : Except CallError Unit :=
  if x.closed then .error (.invalidState "file is closed")
  else if allowed then .ok () else .error (.notOpenFor use)

/-- What is written by a write at a place: nothing counts as no write. -/
def writing (place : Nat) (data : Bytes) : Except CallError (Option TempWrite) :=
  if data = [] then .ok none
  else if place + data.length ≤ maxFileSize then .ok (some ⟨place, data⟩)
  else .error tooLarge

/-- Where the next write goes: behind everything if the file appends, else to the cursor. -/
def place (x : OpenTemp) (ws : List TempWrite) : Nat :=
  if x.flags.append then extent ws else x.cursor

def fail (x : OpenTemp) (e : CallError) : TempOutcome := { answer := .error e, file := x }

/-- A call on an open file with the given writes to its path. A read moves the cursor by the bytes
it gets, a write goes behind what it writes, a seek goes to the exact position, and nothing else
moves the cursor but an appending write that is refused for its size. -/
def call (x : OpenTemp) (ws : List TempWrite) : FileCall → TempOutcome
  | .stat =>
    { answer := x.opened.map fun _ => .stat (.regular (extent ws)), file := x }
  | .read size =>
    match x.access x.flags.read "reading" with
    | .error e => x.fail e
    | .ok _ =>
      let got := bytesFrom ws x.cursor size
      { answer := .ok (.data got), file := { x with cursor := x.cursor + got.length } }
  | .readAt size offset =>
    { answer := (x.access x.flags.read "reading").map fun _ => .data (bytesFrom ws offset size)
      file := x }
  | .seek t =>
    match x.opened with
    | .error e => x.fail e
    | .ok _ =>
      let position := t.position x.cursor (extent ws)
      if 0 ≤ position ∧ position < UInt64.size then
        { answer := .ok (.number position.toNat), file := { x with cursor := position.toNat } }
      else x.fail (.invalidArgument "seek before start of file")
  | .write data _ =>
    match x.access x.flags.write "writing" with
    | .error e => x.fail e
    | .ok _ =>
      match writing (x.place ws) data with
      | .error e => { x with cursor := x.place ws }.fail e
      | .ok written =>
        { answer := .ok (.number data.length)
          file := { x with cursor := x.place ws + data.length }
          written }
  | .writeAt data offset =>
    match x.access x.flags.write "writing" with
    | .error e => x.fail e
    | .ok _ =>
      match writing offset data with
      | .error e => x.fail e
      | .ok written => { answer := .ok (.number data.length), file := x, written }
  | .close => { answer := .ok .done, file := { x with closed := true } }

/-- A read that starts behind the first of two writes has zero for the place between them. -/
example :
    let x : OpenTemp := { path := "/tmp/a", flags := .readWrite }
    let ws : List TempWrite := [⟨0, [1, 2]⟩, ⟨3, [9]⟩]
    ((({ x with cursor := 2 } : OpenTemp).call ws (.read 8)).file.cursor = 4) ∧
    bytesFrom ws 2 8 = [0, 9] := by decide

/-- An open file stays at its path. -/
theorem path_call (x : OpenTemp) (ws : List TempWrite) (c : FileCall) :
    (x.call ws c).file.path = x.path := by
  cases c with
  | stat | readAt | close => rfl
  | read size =>
    simp only [call]
    split <;> rfl
  | seek t =>
    simp only [call]
    split
    · rfl
    · split <;> rfl
  | write | writeAt =>
    simp only [call]
    split
    · rfl
    · split <;> rfl

/-- The handle of an open file on the content numbered `content`. -/
def handle (x : OpenTemp) (content : Nat) : TempHandle where
  content
  readable := x.flags.read
  writable := x.flags.write
  append := x.flags.append
  cursor := x.cursor
  closed := x.closed

variable {x : OpenTemp} {ws : List TempWrite} {bytes : Bytes} {content : Nat}

theorem opened_eq (x : OpenTemp) (content : Nat) : x.opened = (x.handle content).checkOpen := rfl

theorem access_read (x : OpenTemp) (content : Nat) :
    x.access x.flags.read "reading" = (x.handle content).checkReadable := by
  unfold access TempHandle.checkReadable TempHandle.checkOpen handle
  dsimp only
  split <;> rfl

theorem access_write (x : OpenTemp) (content : Nat) :
    x.access x.flags.write "writing" = (x.handle content).checkWritable := by
  unfold access TempHandle.checkWritable TempHandle.checkOpen handle
  dsimp only
  split <;> rfl

theorem place_eq (h : Shown ws bytes) : x.place ws = (x.handle content).position bytes := by
  rw [place, TempHandle.position, h.length]
  rfl

/-- Putting bytes in fails when the write does, and else leaves them as the write has it. -/
theorem writing_eq (bytes : Bytes) (place : Nat) (data : Bytes) :
    (writing place data).map (·.elim bytes fun w => splice bytes w.data w.offset) =
      writeAt bytes data place := by
  unfold writing writeAt
  split
  · rfl
  · split <;> rfl

theorem eq_of_stat {r : Reply} (hr : (x.call ws .stat).answer = .ok r) :
    r = .stat (.regular (extent ws)) := by
  simp only [call] at hr
  cases hopened : x.opened with
  | error e =>
    rw [hopened] at hr
    cases hr
  | ok u =>
    rw [hopened] at hr
    exact (Except.ok.inj hr).symm

theorem readsAt_cursor (h : Shown ws bytes) {size : Nat} {r : Reply}
    (hr : (x.call ws (.read size)).answer = .ok r) : ReadsAt bytes x.cursor size r := by
  simp only [call] at hr
  split at hr
  · cases hr
  · rw [← Except.ok.inj hr, ← h.window]
    exact readsAt_window bytes x.cursor size

theorem readsAt_offset (h : Shown ws bytes) {size offset : Nat} {r : Reply}
    (hr : (x.call ws (.readAt size offset)).answer = .ok r) : ReadsAt bytes offset size r := by
  simp only [call, ← h.window] at hr
  cases haccess : x.access x.flags.read "reading" with
  | error e =>
    rw [haccess] at hr
    cases hr
  | ok u =>
    rw [haccess] at hr
    rw [← Except.ok.inj hr]
    exact readsAt_window bytes offset size

theorem eq_of_writing {place : Nat} {data : Bytes} {w : Option TempWrite}
    (hw : writing place data = .ok w) : w = if data = [] then none else some ⟨place, data⟩ := by
  unfold writing at hw
  split at hw
  · next hnil =>
    cases hw
    exact (if_pos hnil).symm
  · next hne =>
    split at hw
    · cases hw
      exact (if_neg hne).symm
    · cases hw

end OpenTemp

/-! ### Handles -/

namespace FileStore

/-- A turn of the handle in file `id` comes to what a call on an open file comes to, if it writes
as given where it succeeds. -/
structure Serves (id content : Nat) (t : Step) (written : Option TempWrite) (out : TempOutcome) :
    Prop where
  answer : t.progress = .done out.answer
  handle : t.state.file id = .temp (out.file.handle content)
  written : (if t.progress.succeeded then written else none) = out.written

namespace Serves

variable {fs : FileStore} {id content : Nat} {x : OpenTemp} {h : TempHandle}

theorem fail (hf : fs.file id = .temp (x.handle content)) (written : Option TempWrite)
    (e : CallError) : Serves id content (.fail fs e) written (x.fail e) := ⟨rfl, hf, rfl⟩

theorem looks (hf : fs.file id = .temp (x.handle content)) (answer : Except CallError Reply) :
    Serves id content (.result fs answer) none { answer, file := x } :=
  ⟨rfl, hf, ite_self none⟩

theorem moves (r : Reply) (hx : x.handle content = h) :
    Serves id content (.ok (fs.set id (.temp h)) r) none { answer := .ok r, file := x } where
  answer := rfl
  handle := (file_set fs id _ id).trans ((if_pos rfl).trans (congrArg _ hx.symm))
  written := rfl

end Serves

variable {fs : FileStore} {id content : Nat} {h : TempHandle} {x : OpenTemp} {ws : List TempWrite}

theorem startTemp_write_error {h' : TempHandle} {data : Bytes} {e : CallError}
    (hw : h.write (fs.bytes h.content) data = (h', .error e)) (source : String) :
    fs.startTemp id h (.write data source) = .fail (fs.set id (.temp h')) e := by
  simp only [startTemp, hw]

theorem startTemp_write_ok {h' : TempHandle} {data bytes : Bytes}
    (hw : h.write (fs.bytes h.content) data = (h', .ok bytes)) (source : String) :
    fs.startTemp id h (.write data source) =
      .ok ((fs.set id (.temp h')).setBytes h'.content bytes) (.number data.length) := by
  simp only [startTemp, hw]

theorem serves_write (hshown : Shown ws (fs.bytes content)) (data : Bytes) (source : String) :
    Serves id content (fs.startTemp id (x.handle content) (.write data source))
      ((x.handle content).written? (fs.bytes content) (.write data source))
      (x.call ws (.write data source)) := by
  have hset : ∀ h, (fs.set id (.temp h)).file id = .temp h := fun h =>
    (file_set fs id _ id).trans (if_pos rfl)
  have hwrote := (x.handle content).wrote (fs.bytes content) data
  have hplace : (x.handle content).position (fs.bytes content) = x.place ws :=
    (OpenTemp.place_eq hshown).symm
  have hwriting := OpenTemp.writing_eq (fs.bytes content) (x.place ws) data
  simp only [OpenTemp.call, x.access_write content, TempHandle.written?, hplace]
  generalize hresult : (x.handle content).write (fs.bytes content) data = result at hwrote
  cases hwrote with
  | access e hcheck =>
    rw [startTemp_write_error hresult, hcheck]
    exact ⟨rfl, hset _, rfl⟩
  | size hcheck e hlarge =>
    rw [startTemp_write_error hresult, hcheck]
    rw [hplace] at hlarge ⊢
    rw [← hwriting] at hlarge
    dsimp only
    cases hw : OpenTemp.writing (x.place ws) data with
    | error e' =>
      rw [hw] at hlarge
      cases hlarge
      exact ⟨rfl, hset _, rfl⟩
    | ok w =>
      rw [hw] at hlarge
      cases hlarge
  | done hcheck bytes' hfits =>
    rw [startTemp_write_ok hresult, hcheck]
    rw [hplace] at hfits ⊢
    rw [← hwriting] at hfits
    dsimp only
    cases hw : OpenTemp.writing (x.place ws) data with
    | error e =>
      rw [hw] at hfits
      cases hfits
    | ok w =>
      exact ⟨rfl, hset _, (OpenTemp.eq_of_writing hw).symm⟩

theorem serves_writeAt (hf : fs.file id = .temp (x.handle content)) (data : Bytes) (offset : Nat) :
    Serves id content (fs.startTemp id (x.handle content) (.writeAt data offset))
      ((x.handle content).written? (fs.bytes content) (.writeAt data offset))
      (x.call ws (.writeAt data offset)) := by
  have hwriting := OpenTemp.writing_eq (fs.bytes content) offset data
  have hcontent : fs.bytes (x.handle content).content = fs.bytes content := rfl
  simp only [startTemp, hcontent, OpenTemp.call, x.access_write content, TempHandle.writeAt]
  cases (x.handle content).checkWritable with
  | error e => exact .fail hf _ e
  | ok u =>
    simp only [bind, Except.bind]
    rw [← hwriting]
    cases hw : OpenTemp.writing offset data with
    | error e => exact .fail hf _ e
    | ok w => exact ⟨rfl, hf, (OpenTemp.eq_of_writing hw).symm⟩

/-- A handle does as its open file does: it answers the same, moves to the same place and writes
the same. -/
theorem serves_startTemp (hshown : Shown ws (fs.bytes content))
    (hf : fs.file id = .temp (x.handle content)) (c : FileCall) :
    Serves id content (fs.startTemp id (x.handle content) c)
      ((x.handle content).written? (fs.bytes content) c) (x.call ws c) := by
  have hwindow := hshown.window
  have hcontent : fs.bytes (x.handle content).content = fs.bytes content := rfl
  cases c with
  | write data source => exact serves_write hshown data source
  | writeAt data offset => exact serves_writeAt hf data offset
  | stat =>
    have hstat : ((x.handle content).stat (fs.bytes content)).map Reply.stat =
        x.opened.map fun _ => .stat (.regular (extent ws)) := by
      rw [TempHandle.stat, ← x.opened_eq, hshown.length]
      cases x.opened <;> rfl
    simp only [startTemp, hcontent, hstat]
    exact .looks hf _
  | readAt size offset =>
    have hread : ((x.handle content).readAt (fs.bytes content) size offset).map Reply.data =
        (x.access x.flags.read "reading").map fun _ => .data (bytesFrom ws offset size) := by
      rw [TempHandle.readAt, ← x.access_read, hwindow]
      cases x.access x.flags.read "reading" <;> rfl
    simp only [startTemp, hcontent, hread]
    exact .looks hf _
  | read size =>
    simp only [startTemp, hcontent, OpenTemp.call, TempHandle.read, ← x.access_read, hwindow]
    cases x.access x.flags.read "reading" with
    | error e => exact .fail hf _ e
    | ok u => exact .moves _ rfl
  | seek t =>
    have hcursor : (x.handle content).cursor = x.cursor := rfl
    simp only [startTemp, hcontent, OpenTemp.call, TempHandle.seek, ← x.opened_eq, hcursor,
      hshown.length]
    cases x.opened with
    | error e => exact .fail hf _ e
    | ok u =>
      dsimp only
      by_cases hplace : 0 ≤ t.position x.cursor (extent ws) ∧
          t.position x.cursor (extent ws) < UInt64.size
      · have hresolve : t.resolve x.cursor (extent ws) = .ok _ := if_pos hplace
        rw [hresolve, if_pos hplace]
        exact .moves _ rfl
      · have hresolve : t.resolve x.cursor (extent ws) = .error _ := if_neg hplace
        rw [hresolve, if_neg hplace]
        exact .fail hf _ _
  | close => exact .moves _ rfl

end FileStore

end SyscallBridge
