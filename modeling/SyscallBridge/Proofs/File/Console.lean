import SyscallBridge.File.Store
import SyscallBridge.Proofs.Text.Pieces

/-!
# What a console logs

The messages of a write are the pieces of its lines, each decoded on its own. The pieces hold every
byte but the newlines, and only the last piece of a line may be short; a newline between two writes
is as good as two writes. Since a line is cut by bytes, a message is as long as its piece unless it
has replacement characters, and a text comes through whole exactly when no character of it is cut.
-/

namespace SyscallBridge

/-- The message that an effect puts on the console. -/
def Effect.message? : Effect → Option String
  | .log r => some r.message
  | _ => none

/-- The messages that a turn puts on the console. -/
def Turn.logged {σ ρ π : Type} (t : Turn σ ρ π) : List String :=
  t.effects.filterMap Effect.message?

namespace ConsoleSink

/-! ### Lines -/

theorem lines_cons (b : UInt8) (bytes : Bytes) :
    lines (b :: bytes) = if b = 10 then [] :: lines bytes else
      match lines bytes with
      | line :: rest => (b :: line) :: rest
      | [] => [[b]] := rfl

theorem lines_eq_splitOn (bytes : Bytes) : lines bytes = bytes.splitOn 10 := by
  induction bytes with
  | nil => rfl
  | cons b bytes ih =>
    rw [lines_cons, List.splitOn_cons_eq_if_modifyHead, ih]
    obtain ⟨line, rest, hsplit⟩ := List.exists_cons_of_ne_nil (List.splitOn_ne_nil 10 bytes)
    simp only [hsplit, beq_iff_eq, List.modifyHead_cons]

theorem flatten_splitOn (b : UInt8) (bytes : Bytes) :
    (bytes.splitOn b).flatten = bytes.filter (· ≠ b) := by
  induction bytes with
  | nil => rfl
  | cons x bytes ih =>
    obtain ⟨line, rest, hsplit⟩ := List.exists_cons_of_ne_nil (List.splitOn_ne_nil b bytes)
    rw [hsplit] at ih
    rw [List.splitOn_cons_eq_if_modifyHead, List.filter_cons, ← ih, hsplit]
    by_cases hx : x = b
    · simp [hx]
    · simp [hx]

/-! ### Pieces -/

theorem piecesOf_nil (n : Nat) : piecesOf n [] = [] := by
  rw [piecesOf]

theorem piecesOf_cons (n : Nat) (b : UInt8) (rest : Bytes) :
    piecesOf n (b :: rest) = (b :: rest).take (n + 1) :: piecesOf n (rest.drop n) := by
  rw [piecesOf]

theorem piecesOf_of_length_le {n : Nat} {line : Bytes} (hne : line ≠ [])
    (hlength : line.length ≤ n + 1) : piecesOf n line = [line] := by
  obtain ⟨b, rest, rfl⟩ := List.exists_cons_of_ne_nil hne
  have hrest : rest.length ≤ n := Nat.le_of_succ_le_succ hlength
  rw [piecesOf_cons, List.take_of_length_le hlength, List.drop_of_length_le hrest, piecesOf_nil]

theorem flatten_piecesOf (n : Nat) (line : Bytes) : (piecesOf n line).flatten = line := by
  induction line using piecesOf.induct n with
  | case1 => rw [piecesOf_nil, List.flatten_nil]
  | case2 b rest ih =>
    rw [piecesOf_cons, List.flatten_cons, ih, List.take_succ_cons, List.cons_append,
      List.take_append_drop]

theorem mem_piecesOf {n : Nat} {line piece : Bytes} (h : piece ∈ piecesOf n line) :
    piece ≠ [] ∧ piece.length ≤ n + 1 := by
  induction line using piecesOf.induct n with
  | case1 =>
    rw [piecesOf_nil] at h
    cases h
  | case2 b rest ih =>
    rw [piecesOf_cons, List.mem_cons] at h
    rcases h with rfl | h
    · exact ⟨by simp, List.length_take_le _ _⟩
    · exact ih h

/-- Every piece but the last is as long as a piece may be. -/
theorem length_of_mem_dropLast {n : Nat} {line piece : Bytes}
    (h : piece ∈ (piecesOf n line).dropLast) : piece.length = n + 1 := by
  induction line using piecesOf.induct n with
  | case1 =>
    rw [piecesOf_nil] at h
    cases h
  | case2 b rest ih =>
    rw [piecesOf_cons] at h
    cases hrest : rest.drop n with
    | nil =>
      rw [hrest, piecesOf_nil] at h
      cases h
    | cons x xs =>
      have hlong : n < rest.length := by
        by_contra hle
        rw [List.drop_of_length_le (Nat.le_of_not_lt hle)] at hrest
        cases hrest
      rw [hrest, piecesOf_cons, List.dropLast_cons_cons, List.mem_cons, ← piecesOf_cons,
        ← hrest] at h
      rcases h with rfl | h
      · rw [List.length_take, List.length_cons]
        omega
      · exact ih h

variable (s : ConsoleSink)

/-- The pieces that writing `bytes` logs. -/
def cuts (bytes : Bytes) : List Bytes := (lines bytes).flatMap s.pieces

theorem messages_eq (bytes : Bytes) : s.messages bytes = (s.cuts bytes).map Utf8.decodeLossy := rfl

theorem cuts_append (a b : Bytes) : s.cuts (a ++ 10 :: b) = s.cuts a ++ s.cuts b := by
  simp only [cuts, lines_eq_splitOn]
  rw [List.splitOn_append_cons_self, List.flatMap_append]

theorem flatten_cuts (bytes : Bytes) : (s.cuts bytes).flatten = bytes.filter (· ≠ 10) := by
  rw [← flatten_splitOn, ← lines_eq_splitOn, cuts]
  induction lines bytes with
  | nil => rfl
  | cons line rest ih =>
    rw [List.flatMap_cons, List.flatten_append, List.flatten_cons, ih, pieces, flatten_piecesOf]

variable {s}

theorem length_of_mem_cuts (hsize : 1 ≤ s.chunkSize) {bytes piece : Bytes}
    (h : piece ∈ s.cuts bytes) : piece.length ≤ s.chunkSize := by
  obtain ⟨line, -, hpiece⟩ := List.mem_flatMap.1 h
  have hlength := (mem_piecesOf hpiece).2
  omega

end ConsoleSink

/-! ### Writes -/

namespace FileStore

open ConsoleSink

variable {fs : FileStore} {id : Nat} {sink : ConsoleSink}

theorem start_write_console (hfile : fs.file id = .console sink) (bytes : Bytes) (source : String) :
    fs.start id (.write bytes source) =
      ⟨fs, (sink.records bytes source).map .log, .done (.ok (.number bytes.length))⟩ := by
  rw [start, hfile]
  rfl

theorem logged_write (hfile : fs.file id = .console sink) (bytes : Bytes) (source : String) :
    (fs.start id (.write bytes source)).logged = sink.messages bytes := by
  rw [start_write_console hfile, Turn.logged, records, List.map_map, List.filterMap_map]
  exact List.filterMap_some

/-- A write logs its lines in pieces, each decoded: they hold every byte but the newlines, none is
empty or longer than a piece may be, and each that does not end its line has the full length. A
newline between two texts does what a new write does. -/
theorem logged_in_pieces (hfile : fs.file id = .console sink) (hsize : 1 ≤ sink.chunkSize) :
    (∀ bytes source, ∃ chunks : List (List Bytes),
      chunks.map List.flatten = bytes.splitOn 10 ∧
      chunks.flatten.flatten = bytes.filter (· ≠ 10) ∧
      (∀ line ∈ chunks, (∀ piece ∈ line, piece ≠ [] ∧ piece.length ≤ sink.chunkSize) ∧
        ∀ piece ∈ line.dropLast, piece.length = sink.chunkSize) ∧
      (fs.start id (.write bytes source)).logged = chunks.flatten.map Utf8.decodeLossy) ∧
    ∀ a b source first second,
      (fs.start id (.write (a ++ 10 :: b) source)).logged =
        (fs.start id (.write a first)).logged ++
          ((fs.start id (.write a first)).state.start id (.write b second)).logged := by
  have hchunk : sink.chunkSize - 1 + 1 = sink.chunkSize := Nat.sub_add_cancel hsize
  constructor
  · intro bytes source
    refine ⟨(lines bytes).map sink.pieces, ?_, ?_, ?_, ?_⟩
    · rw [List.map_map, ← lines_eq_splitOn]
      exact (List.map_congr_left fun line _ => flatten_piecesOf _ line).trans (List.map_id _)
    · rw [← flatten_cuts sink, cuts, List.flatMap_def]
    · intro line hline
      obtain ⟨bytes, -, rfl⟩ := List.mem_map.1 hline
      rw [← hchunk]
      exact ⟨fun piece hpiece => mem_piecesOf hpiece,
        fun piece hpiece => length_of_mem_dropLast hpiece⟩
    · rw [logged_write hfile, messages_eq, cuts, List.flatMap_def]
  · intro a b source first second
    have hstate : (fs.start id (.write a first)).state = fs := by
      rw [start_write_console hfile]
    rw [hstate, logged_write hfile, logged_write hfile, logged_write hfile, messages_eq,
      messages_eq, messages_eq, cuts_append, List.map_append]

/-- Blank lines log nothing, a line of two whole pieces logs no third, and what follows a newline
starts a piece of its own. -/
theorem logged_in_pieces_blank_lines :
    let fs := (({} : FileStore).add (.console ⟨.log, 4⟩)).2
    fs.file 0 = .console ⟨.log, 4⟩ ∧
    (fs.start 0 (.write (utf8Bytes "\nabcdefgh\n\nijklm\n") "")).logged =
      ["abcd", "efgh", "ijkl", "m"] ∧
    ∃ chunks : List (List Bytes),
      chunks.map List.flatten = (utf8Bytes "\nabcdefgh\n\nijklm\n").splitOn 10 ∧
      chunks.flatten.map Utf8.decodeLossy = ["abcd", "efgh", "ijkl", "m"] := by
  intro fs
  have hfile : fs.file 0 = .console ⟨.log, 4⟩ := rfl
  have hlogged : (fs.start 0 (.write (utf8Bytes "\nabcdefgh\n\nijklm\n") "")).logged =
      ["abcd", "efgh", "ijkl", "m"] := by decide +kernel
  obtain ⟨chunks, hlines, -, -, hchunks⟩ := (logged_in_pieces hfile (by decide)).1 _ ""
  exact ⟨hfile, hlogged, chunks, hlines, hchunks.symm.trans hlogged⟩

/-! ### Sizes -/

theorem decodeLossy_bad (n : Nat) :
    Utf8.decodeLossy (List.replicate n 0xFF) = String.ofList (List.replicate n '\uFFFD') := by
  have hscan : Utf8.scan .start (List.replicate n 0xFF) = List.replicate n none := by
    induction n with
    | zero => rfl
    | succ n ih => exact congrArg (none :: ·) ih
  rw [Utf8.decodeLossy, hscan, List.map_replicate]
  rfl

theorem size_replaced (n : Nat) :
    (String.ofList (List.replicate n '\uFFFD')).utf8ByteSize = 3 * n := by
  rw [← length_utf8Bytes, utf8Bytes_ofList]
  induction n with
  | zero => rfl
  | succ n ih =>
    rw [List.replicate_succ, List.flatMap_cons, List.length_append, ih]
    change 3 + 3 * n = 3 * (n + 1)
    omega

/-- A message is longer than a piece may be by two bytes at most for each replacement character in
it, and never longer than three times that size, which messages do reach. -/
theorem logged_at_most_threefold (hfile : fs.file id = .console sink) (hsize : 1 ≤ sink.chunkSize)
    (source : String) :
    (∀ bytes, ∀ message ∈ (fs.start id (.write bytes source)).logged,
      message.utf8ByteSize ≤ sink.chunkSize + 2 * message.toList.count '\uFFFD' ∧
      message.utf8ByteSize ≤ 3 * sink.chunkSize) ∧
    ∃ bytes, ∃ message ∈ (fs.start id (.write bytes source)).logged,
      message.utf8ByteSize = 3 * sink.chunkSize := by
  constructor
  · intro bytes message hmessage
    rw [logged_write hfile, messages_eq, List.mem_map] at hmessage
    obtain ⟨piece, hpiece, rfl⟩ := hmessage
    have hlength := length_of_mem_cuts hsize hpiece
    have hbytes := Utf8.size_decodeLossy_le piece
    have hchars := Utf8.length_decodeLossy_le piece
    have hcount := List.count_le_length (a := '\uFFFD') (l := (Utf8.decodeLossy piece).toList)
    omega
  · refine ⟨List.replicate sink.chunkSize 0xFF, Utf8.decodeLossy _, ?_,
      (congrArg _ (decodeLossy_bad _)).trans (size_replaced _)⟩
    have hbad : (10 : UInt8) ∉ List.replicate sink.chunkSize (0xFF : UInt8) := by
      intro h
      exact absurd (List.eq_of_mem_replicate h) (by decide)
    have hne : List.replicate sink.chunkSize (0xFF : UInt8) ≠ [] := by
      rw [Ne, List.replicate_eq_nil_iff]
      omega
    have hlength : (List.replicate sink.chunkSize (0xFF : UInt8)).length ≤
        sink.chunkSize - 1 + 1 := by
      rw [List.length_replicate]
      omega
    rw [logged_write hfile, messages_eq, cuts, lines_eq_splitOn, List.splitOn_eq_singleton hbad,
      List.flatMap_singleton, pieces, piecesOf_of_length_le hne hlength]
    exact List.mem_singleton_self _

/-- A byte that is no text takes a message over the size. -/
theorem logged_at_most_threefold_odd_byte :
    let fs := (({} : FileStore).add (.console ⟨.log, 4⟩)).2
    fs.file 0 = .console ⟨.log, 4⟩ ∧
    (fs.start 0 (.write [97, 97, 97, 255] "")).logged = ["aaa\uFFFD"] ∧
    "aaa\uFFFD".utf8ByteSize ≤ 4 + 2 * "aaa\uFFFD".toList.count '\uFFFD' := by
  intro fs
  have hfile : fs.file 0 = .console ⟨.log, 4⟩ := rfl
  have hlogged : (fs.start 0 (.write [97, 97, 97, 255] "")).logged = ["aaa\uFFFD"] := by
    decide +kernel
  have hsizes := (logged_at_most_threefold hfile (by decide) "").1 [97, 97, 97, 255]
  rw [hlogged] at hsizes
  exact ⟨hfile, hlogged, (hsizes _ (List.mem_singleton_self _)).1⟩

theorem logged_past_size :
    let fs := (({} : FileStore).add (.console ⟨.log, 4⟩)).2
    fs.file 0 = .console ⟨.log, 4⟩ ∧
    ¬ ∀ message ∈ (fs.start 0 (.write [97, 97, 97, 255] "")).logged,
      message.utf8ByteSize ≤ 4 :=
  ⟨rfl, by decide +kernel⟩

/-! ### Texts -/

/-- The messages of a text are the text without its newlines exactly when no piece ends or starts
inside a character. They have no character that the text does not have, in its order, but for
replacement characters. -/
theorem text_logged_unless_cut (hfile : fs.file id = .console sink) (text source : String) :
    let logged := (fs.start id (.write (utf8Bytes text) source)).logged
    ((String.join logged).toList = text.toList.filter (· ≠ '\n') ↔
      ∀ piece ∈ sink.cuts (utf8Bytes text), ∃ t, piece = utf8Bytes t) ∧
    ((String.join logged).toList.filter (· ≠ '\uFFFD')).Sublist
      (text.toList.filter (· ≠ '\n')) := by
  intro logged
  have hlogged : logged = sink.messages (utf8Bytes text) := logged_write hfile _ _
  have hjoined : (String.join logged).toList =
      (sink.cuts (utf8Bytes text)).flatMap fun piece => (Utf8.decodeLossy piece).toList := by
    rw [String.toList_join, hlogged, messages_eq, List.flatMap_map]
  have hflatten := (flatten_cuts sink (utf8Bytes text)).trans (Utf8.filter_utf8Bytes text)
  have hwhole := Utf8.flatMap_decodeLossy_eq_iff hflatten
  have hkept := Utf8.sublist_decodeLossy hflatten
  rw [String.toList_ofList] at hwhole hkept
  rw [hjoined]
  exact ⟨hwhole, hkept⟩

/-- A text whose characters fall between the cuts is logged whole. -/
theorem text_logged_unless_cut_between :
    let fs := (({} : FileStore).add (.console ⟨.log, 5⟩)).2
    fs.file 0 = .console ⟨.log, 5⟩ ∧
    (fs.start 0 (.write (utf8Bytes "aaaéb\né") "")).logged = ["aaaé", "b", "é"] ∧
    ∀ piece ∈ (⟨.log, 5⟩ : ConsoleSink).cuts (utf8Bytes "aaaéb\né"), ∃ t, piece = utf8Bytes t := by
  intro fs
  have hfile : fs.file 0 = .console ⟨.log, 5⟩ := rfl
  have hlogged : (fs.start 0 (.write (utf8Bytes "aaaéb\né") "")).logged = ["aaaé", "b", "é"] := by
    decide +kernel
  have hwhole := (text_logged_unless_cut hfile "aaaéb\né" "").1
  rw [hlogged] at hwhole
  exact ⟨hfile, hlogged, hwhole.1 (by decide +kernel)⟩

/-- A character that a cut parts is logged as two replacement characters. -/
theorem text_lost_at_cut :
    let fs := (({} : FileStore).add (.console ⟨.log, 4⟩)).2
    let logged := (fs.start 0 (.write (utf8Bytes "aaaé") "")).logged
    fs.file 0 = .console ⟨.log, 4⟩ ∧ logged = ["aaa\uFFFD", "\uFFFD"] ∧
    (String.join logged).toList ≠ "aaaé".toList.filter (· ≠ '\n') := by
  intro fs logged
  have hlogged : logged = ["aaa\uFFFD", "\uFFFD"] := by decide +kernel
  refine ⟨rfl, hlogged, ?_⟩
  rw [hlogged]
  decide +kernel

end FileStore

end SyscallBridge
