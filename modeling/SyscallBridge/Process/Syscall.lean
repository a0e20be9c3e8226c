import SyscallBridge.File.Store

/-!
# System calls

Every call a program can make, with the name that errors know it by.
-/

namespace SyscallBridge

/-- Calls that no process answers. -/
inductive MissingCall where
  | chdir | getcwd | chmod | chown | rename | link | truncate | pipe | kill
  deriving DecidableEq, Repr

def MissingCall.name : MissingCall → String
  | chdir => "chdir"
  | getcwd => "getcwd"
  | chmod => "chmod"
  | chown => "chown"
  | rename => "rename"
  | link => "link"
  | truncate => "truncate"
  | pipe => "pipe"
  | kill => "kill"

inductive Syscall where
  | open_ (path : String) (flags : OpenFlags)
  | close (fd : Nat)
  /-- A call on the file of a descriptor. -/
  | onFile (fd : Nat) (c : FileCall)
  | fsync (fd : Nat)
  | dup (fd : Nat)
  | dup2 (fd target : Nat)
  | stat (path : String)
  | mkdir (path : String)
  | rmdir (path : String)
  | symlink (target path : String)
  | unlink (path : String)
  | readlink (path : String)
  | getenv (key : String)
  | setenv (key value : String)
  | unsetenv (key : String)
  | environ
  | getpid
  | socket (domain type protocol : Int)
  /-- A call on the socket of a descriptor. -/
  | onSocket (fd : Nat) (c : SocketCall)
  | resolve (network address : String)
  | dial (network address : String)
  | missing (c : MissingCall)
  deriving DecidableEq, Repr

def SocketCall.name : SocketCall → String
  | bind _ => "bind"
  | listen => "listen"
  | accept => "accept"
  | connect _ => "connect"
  | ownName => "getsockname"
  | peerName => "getpeername"
  | read _ => "read"
  | write _ => "write"
  | sendTo .. => "sendto"
  | receiveFrom _ => "recvfrom"
  | stopIo => "stop_io"
  | close => "close"
  | setDeadline => "set_deadline"
  | setReadDeadline => "set_read_deadline"
  | setWriteDeadline => "set_write_deadline"

namespace Syscall

def name : Syscall → String
  | open_ .. => "open"
  | close _ => "close"
  | onFile _ .stat => "fstat"
  | onFile _ c => c.name
  | fsync _ => "fsync"
  | dup _ => "dup"
  | dup2 .. => "dup2"
  | stat _ => "stat"
  | mkdir _ => "mkdir"
  | rmdir _ => "rmdir"
  | symlink .. => "symlink"
  | unlink _ => "unlink"
  | readlink _ => "readlink"
  | getenv _ => "getenv"
  | setenv .. => "setenv"
  | unsetenv _ => "unsetenv"
  | environ => "environ"
  | getpid => "getpid"
  | socket .. => "socket"
  | onSocket _ c => c.name
  | resolve .. => "resolve"
  | dial .. => "dial"
  | missing c => c.name

end Syscall

end SyscallBridge
