import SyscallBridge.Text.Utf8

/-!
# FNV-1a

The 64-bit FNV-1a digest of a byte string.
-/

namespace SyscallBridge

def fnv1a (bytes : Bytes) : UInt64 :=
  bytes.foldl (fun h b => (h ^^^ b.toUInt64) * 0x100000001B3) 0xCBF29CE484222325

end SyscallBridge
