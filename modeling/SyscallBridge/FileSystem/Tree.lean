import SyscallBridge.FileSystem.Devices
import SyscallBridge.FileSystem.Links

/-!
# The file system

There is no file system underneath. A path is taken to the end of its links; then everything under
the temp directory is a temp file, made when it is first opened, and the devices are there. All
else does not exist. Directories are kept as a set of paths. Where the temp directory is may change
from call to call.
-/

namespace SyscallBridge

structure FileSystem where
  links : Links := {}
  /-- The numbers of the contents of temp files. -/
  temps : Assoc String Nat := {}
  directories : List String := []
  devices : Devices

namespace FileSystem

def create (knownDirs : List String) (seed : UInt64) : FileSystem where
  directories := (knownDirs.map Path.trim).eraseDups
  devices := .ofSeed seed

/-- The content of the temp file at a path, which is made if there is none. -/
def content (t : FileSystem) (store : FileStore) (path : String) : Nat × FileSystem × FileStore :=
  match t.temps.find? path with
  | some id => (id, t, store)
  | none =>
    let (id, store) := store.addContent path
    (id, { t with temps := t.temps.insert path id }, store)

def openTemp (t : FileSystem) (store : FileStore) (path : String) (flags : OpenFlags) :
    OpenFile × FileSystem × FileStore :=
  let (id, t, store) := t.content store path
  let store := if flags.truncate ∧ flags.write then store.setBytes id [] else store
  (.temp (.open_ id flags), t, store)

/-- Opens a path; a temp file is made whatever the flags. -/
def open_ (t : FileSystem) (store : FileStore) (path : String) (flags : OpenFlags)
    (tmpDir : String) : Except CallError (OpenFile × FileSystem × FileStore) := do
  let target ← t.links.resolve path
  if Path.isUnder target tmpDir then
    if target ∈ t.directories then .error (.unsupported "open directory")
    else .ok (t.openTemp store target flags)
  else match t.devices.open? target with
    | some (file, devices) => .ok (file, { t with devices }, store)
    | none => .error (.notFound path)

/-- Makes `path` a link to `target`, in place of any link there. -/
def symlink (t : FileSystem) (target path : String) : FileSystem :=
  { t with links := t.links.insert (Path.trim path) (Path.trim target) }

/-- Removes a link; nothing else can be removed so. -/
def unlink (t : FileSystem) (path : String) : Except CallError FileSystem :=
  if t.links.contains (Path.trim path) then
    .ok { t with links := t.links.erase (Path.trim path) }
  else .error (.notSymlink path)

def readLink (t : FileSystem) (path : String) : Except CallError String :=
  match t.links.find? (Path.trim path) with
  | some target => .ok target
  | none => .error (.notSymlink path)

/-- Makes a directory; links are not followed. -/
def makeDirectory (t : FileSystem) (path tmpDir : String) : Except CallError FileSystem :=
  let path := Path.trim path
  if path = Path.trim tmpDir then .error (.alreadyExists path)
  else if !Path.isUnder path tmpDir ∧ path ∉ t.directories then .error (.unimplemented "mkdir")
  else if t.temps.contains path ∨ path ∈ t.directories then .error (.alreadyExists path)
  else .ok { t with directories := path :: t.directories }

def removeDirectory (t : FileSystem) (path tmpDir : String) : Except CallError FileSystem := do
  let path ← t.links.resolve path
  if path = Path.trim tmpDir then .error (.invalidState "cannot remove the temp directory")
  else if path ∈ t.directories then .ok { t with directories := t.directories.erase path }
  else if Path.isUnder path tmpDir then .error (.notFound path)
  else .error (.unimplemented "rmdir")

def stat (t : FileSystem) (store : FileStore) (path tmpDir : String) :
    Except CallError FileStat := do
  let path ← t.links.resolve path
  if path = Path.trim tmpDir ∨ path ∈ t.directories then .ok .directory
  else match t.temps.find? path with
    | some id => .ok (.regular (store.bytes id).length)
    | none =>
      match Devices.stat? path with
      | some s => .ok s
      | none =>
        if Path.isUnder path tmpDir then .error (.notFound path)
        else .error (.unimplemented "stat")

end FileSystem

end SyscallBridge
