/-!
# File status
-/

namespace SyscallBridge

inductive FileKind where
  | charDevice | regular | directory | socket
  deriving DecidableEq, Repr

structure FileStat where
  kind : FileKind
  size : Nat
  deriving DecidableEq, Repr

namespace FileStat

def isDirectory (s : FileStat) : Bool := s.kind = .directory

def device : FileStat := ⟨.charDevice, 0⟩

def directory : FileStat := ⟨.directory, 0⟩

def regular (size : Nat) : FileStat := ⟨.regular, size⟩

def socket : FileStat := ⟨.socket, 0⟩

end FileStat

end SyscallBridge
