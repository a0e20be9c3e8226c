import SyscallBridge.Process.Call

/-!
# Calls on paths, change by change

A call may fail half way through, and then the changes it has made stay. Here the calls on paths are
written as steps that look at the process, change it or give up, in the order in which they happen.
A step that takes something out of a map or puts it in also tells whether there was anything to do,
and such a step can be the condition of what comes next.
-/

namespace SyscallBridge.Process

/-- Steps on a process; giving up keeps what was changed before. -/
abbrev InPlace (α : Type) : Type := ExceptT CallError (StateM Process) α

namespace InPlace

variable {α β : Type}

/-- The outcome of the steps on a process, and the process after them. -/
def on (m : InPlace α) (p : Process) : Except CallError α × Process := m.run.run p

def turn (m : InPlace Reply) (p : Process) : Step := .result (m.on p).2 (m.on p).1

theorem on_bind (m : InPlace α) (next : α → InPlace β) (p : Process) :
    (m >>= next).on p = match m.on p with
      | (.ok a, q) => (next a).on q
      | (.error e, q) => (.error e, q) := by
  change ExceptT.bindCont next (m.run.run p).1 (m.run.run p).2 = _
  unfold on
  cases m.run.run p with
  | mk r q => cases r <;> rfl

theorem on_get_bind (next : Process → InPlace β) (p : Process) :
    (get >>= next).on p = (next p).on p := rfl

/-! ### Looking -/

def resolve (path : String) : InPlace String := do
  match (← get).tree.links.resolve path with
  | .ok target => return target
  | .error e => throw e

/-! ### Changing -/

def setTree (tree : FileSystem) : InPlace Unit := do set { ← get with tree }

/-- Puts a directory in, and tells whether it is new. -/
def insertDirectory (path : String) : InPlace Bool := do
  let t := (← get).tree
  setTree { t with directories := t.directories.insert path }
  return path ∉ t.directories

/-- Takes a directory out, and tells whether it was there. -/
def eraseDirectory (path : String) : InPlace Bool := do
  let t := (← get).tree
  setTree { t with directories := t.directories.erase path }
  return path ∈ t.directories

/-- Takes a link out, and tells whether it was there. -/
def eraseLink (path : String) : InPlace Bool := do
  let t := (← get).tree
  setTree { t with links := t.links.erase path }
  return t.links.contains path

def content (path : String) : InPlace Nat := do
  let p ← get
  let (id, tree, store) := p.tree.content p.store path
  set { p with tree, store }
  return id

def empty (id : Nat) : InPlace Unit := do
  let p ← get
  set { p with store := p.store.setBytes id [] }

def drawSeed : InPlace UInt64 := do
  let t := (← get).tree
  setTree { t with devices := ⟨t.devices.seeds.next.2⟩ }
  return t.devices.seeds.next.1

def allocate (f : OpenFile) : InPlace Nat := do
  let (fd, p) := (← get).allocate f
  set p
  return fd

/-! ### Calls -/

def openTemp (target : String) (flags : OpenFlags) : InPlace OpenFile := do
  let id ← content target
  if flags.truncate ∧ flags.write then empty id
  return .temp (.open_ id flags)

def openDevice (target path : String) : InPlace OpenFile := do
  match Device.ofPath? target with
  | none => throw (.notFound path)
  | some .zone => return .fixed ZoneData.bytes 0
  | some .random => return .random (.ofSeed (← drawSeed))

def openFile (path : String) (flags : OpenFlags) : InPlace OpenFile := do
  let target ← resolve path
  let p ← get
  if Path.isUnder target p.tmpDir then
    if target ∈ p.tree.directories then throw (.unsupported "open directory")
    else openTemp target flags
  else openDevice target path

def open_ (path : String) (flags : OpenFlags) : InPlace Reply := do
  return .number (← allocate (← openFile path flags))

def stat (path : String) : InPlace Reply := do
  let path ← resolve path
  let p ← get
  if path = Path.trim p.tmpDir ∨ path ∈ p.tree.directories then return .stat .directory
  else match p.tree.temps.find? path with
  | some id => return .stat (.regular (p.store.bytes id).length)
  | none =>
    match Devices.stat? path with
    | some s => return .stat s
    | none =>
      if Path.isUnder path p.tmpDir then throw (.notFound path)
      else throw (.unimplemented "stat")

def mkdir (path : String) : InPlace Reply := do
  let path := Path.trim path
  let p ← get
  if path = Path.trim p.tmpDir then throw (.alreadyExists path)
  else if !Path.isUnder path p.tmpDir ∧ path ∉ p.tree.directories then
    throw (.unimplemented "mkdir")
  else if p.tree.temps.contains path then throw (.alreadyExists path)
  -- the directory goes in as the test itself, so everything that can fail otherwise comes before
  else if ← insertDirectory path then return .done
  else throw (.alreadyExists path)

def rmdir (path : String) : InPlace Reply := do
  let path ← resolve path
  let p ← get
  if path = Path.trim p.tmpDir then throw (.invalidState "cannot remove the temp directory")
  -- errors come after this, but only where there was nothing to take out
  else if ← eraseDirectory path then return .done
  else if Path.isUnder path p.tmpDir then throw (.notFound path)
  else throw (.unimplemented "rmdir")

def unlink (path : String) : InPlace Reply := do
  if ← eraseLink (Path.trim path) then return .done
  else throw (.notSymlink path)

def readlink (path : String) : InPlace Reply := do
  match (← get).tree.links.find? (Path.trim path) with
  | some target => return .text target
  | none => throw (.notSymlink path)

end InPlace

/-- A call on a path other than linking, which cannot fail. -/
inductive PathCall where
  | open_ (path : String) (flags : OpenFlags)
  | stat (path : String)
  | mkdir (path : String)
  | rmdir (path : String)
  | unlink (path : String)
  | readlink (path : String)
  deriving DecidableEq, Repr

namespace PathCall

def syscall : PathCall → Syscall
  | open_ path flags => .open_ path flags
  | stat path => .stat path
  | mkdir path => .mkdir path
  | rmdir path => .rmdir path
  | unlink path => .unlink path
  | readlink path => .readlink path

def inPlace : PathCall → InPlace Reply
  | open_ path flags => .open_ path flags
  | stat path => .stat path
  | mkdir path => .mkdir path
  | rmdir path => .rmdir path
  | unlink path => .unlink path
  | readlink path => .readlink path

end PathCall

end SyscallBridge.Process
