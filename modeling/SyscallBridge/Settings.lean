import SyscallBridge.Error.CallError
import SyscallBridge.Host.Console
import SyscallBridge.Json.Value
import SyscallBridge.Text.Quoted

/-!
# Settings of a bridge

Settings come as a JSON text in one attribute of the creating page. What it does not mention
keeps its default, except that the known directories follow the temp directory.
-/

namespace SyscallBridge

structure Settings where
  /-- Where temp files live, and the first value of `TMPDIR`. -/
  tmpDir : String := "/tmp"
  /-- The longest message the console takes, in bytes. -/
  logChunkSize : Nat := 128
  stdoutLevel : LogLevel := .log
  stderrLevel : LogLevel := .warning
  /-- Variables that may be missing without a notice. -/
  toleratedKeys : List String := ["ZONEINFO", "HTTP_PROXY", "TZ"]
  knownDirs : List String := ["/tmp"]
  /-- Seed of the random device. -/
  randomSeed : Option UInt64 := none
  /-- Fatal errors stop the program instead of being reported. -/
  abortOnFatal : Bool := false
  deriving DecidableEq, Repr, Inhabited

/-- Why settings were refused: the text does not decode, or a value is out of bounds. -/
inductive SettingsError where
  | undecodable
  | invalid (reason : String)
  deriving DecidableEq, Repr

namespace Settings

def attributeName : String := "bridge-config"

/-- The keys, in the order in which an array gives their values. -/
def keys : List String := ["tmp_dir", "log_chunk_size", "stdout_level", "stderr_level",
  "tolerated_env_keys", "known_dirs", "random_seed", "abort_on_fatal"]

def textOf? : Json → Option String
  | .string s => some s
  | _ => none

def wordOf? : Json → Option UInt64
  | .number (.natural n) => some n
  | _ => none

def sizeOf? (j : Json) : Option Nat := (wordOf? j).map UInt64.toNat

def boolOf? : Json → Option Bool
  | .bool b => some b
  | _ => none

/-- A level by its name, alone or as the key of a null. -/
def levelOf? : Json → Option LogLevel
  | .string s => LogLevel.ofName? s
  | .object fields =>
    match fields.reverse with
    | (s, .null) :: others => if others.all (·.1 = s) then LogLevel.ofName? s else none
    | _ => none
  | _ => none

def textsOf? : Json → Option (List String)
  | .array items => items.mapM textOf?
  | _ => none

def seedOf? : Json → Option (Option UInt64)
  | .null => some none
  | j => (wordOf? j).map some

/-- Decodes what `j` gives and keeps `default` where it gives nothing. -/
def given? {α : Type} (default : α) (decode : Json → Option α) : Option Json → Option α
  | none => some default
  | some j => decode j

/-- Settings from the values that `get` finds for the keys. -/
def ofFields? (get : String → Option Json) : Option Settings := do
  let d : Settings := {}
  return {
    tmpDir := ← given? d.tmpDir textOf? (get "tmp_dir")
    logChunkSize := ← given? d.logChunkSize sizeOf? (get "log_chunk_size")
    stdoutLevel := ← given? d.stdoutLevel levelOf? (get "stdout_level")
    stderrLevel := ← given? d.stderrLevel levelOf? (get "stderr_level")
    toleratedKeys := ← given? d.toleratedKeys textsOf? (get "tolerated_env_keys")
    knownDirs := ← given? d.knownDirs textsOf? (get "known_dirs")
    randomSeed := ← given? d.randomSeed seedOf? (get "random_seed")
    abortOnFatal := ← given? d.abortOnFatal boolOf? (get "abort_on_fatal") }

/-- Settings from an object, in which the last of repeated keys counts, or from an array of
values. Only an object can name its own known directories. -/
def ofJson? : Json → Option Settings
  | .object fields => do
    let s ← ofFields? (lastField? fields)
    return if (lastField? fields "known_dirs").isSome then s else { s with knownDirs := [s.tmpDir] }
  | .array items =>
    if keys.length < items.length then none
    else do
      let s ← ofFields? (field? (keys.zip items))
      return { s with knownDirs := [s.tmpDir] }
  | _ => none

def check (s : Settings) : Except SettingsError Settings :=
  if s.logChunkSize = 0 then .error (.invalid "log_chunk_size must be positive")
  else if !s.tmpDir.startsWith "/" then
    .error (.invalid ("tmp_dir must be absolute, got " ++ Quoted.encode s.tmpDir))
  else .ok s

def parse (text : String) : Except SettingsError Settings :=
  match Json.parse? text >>= ofJson? with
  | some s => s.check
  | none => .error .undecodable

/-- Settings from creation arguments. -/
def ofArguments (arguments : List (String × String)) : Except SettingsError Settings :=
  match field? arguments attributeName with
  | some text => parse text
  | none => .ok {}

end Settings

end SyscallBridge
