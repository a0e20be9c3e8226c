import SyscallBridge.Address.Network
import SyscallBridge.File.Stat

/-!
# Replies

What a call that succeeds gives back.
-/

namespace SyscallBridge

inductive Reply where
  | done
  | number (n : Nat)
  | data (bytes : Bytes)
  | datagram (bytes : Bytes) (sender : SockAddr)
  | address (a : SockAddr)
  | accepted (fd : Nat) (peer : SockAddr)
  | stat (s : FileStat)
  | text (s : String)
  | maybeText (s : Option String)
  | texts (l : List String)
  deriving DecidableEq, Repr

end SyscallBridge
