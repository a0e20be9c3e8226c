import SyscallBridge.Host.Console
import SyscallBridge.Text.Utf8

/-!
# Console files

What is written to a console is logged line by line, and a line that is too long in pieces. Lines
are cut by bytes, and each piece is decoded on its own.
-/

namespace SyscallBridge

structure ConsoleSink where
  level : LogLevel
  /-- Bytes in a message. -/
  chunkSize : Nat
  deriving DecidableEq, Repr

namespace ConsoleSink

/-- The lines of a text, without their newlines. -/
def lines (bytes : Bytes) : List Bytes :=
  bytes.foldr (fun b lines =>
    if b = 10 then [] :: lines
    else match lines with
      | line :: rest => (b :: line) :: rest
      | [] => [[b]]) [[]]

/-- Pieces of `n + 1` bytes; the last may be shorter. -/
def piecesOf (n : Nat) (line : Bytes) : List Bytes :=
  match line with
  | [] => []
  | b :: rest => (b :: rest).take (n + 1) :: piecesOf n (rest.drop n)
termination_by line.length
decreasing_by
  have h := List.length_drop (i := n) (l := rest)
  rw [h, List.length_cons]
  omega

def pieces (s : ConsoleSink) (line : Bytes) : List Bytes := piecesOf (s.chunkSize - 1) line

/-- The messages that writing `bytes` logs. -/
def messages (s : ConsoleSink) (bytes : Bytes) : List String :=
  ((lines bytes).flatMap s.pieces).map Utf8.decodeLossy

def records (s : ConsoleSink) (bytes : Bytes) (source : String) : List LogRecord :=
  (s.messages bytes).map fun message => ⟨s.level, source, message⟩

end ConsoleSink

end SyscallBridge
