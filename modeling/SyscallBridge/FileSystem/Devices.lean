import SyscallBridge.File.Store
import SyscallBridge.FileSystem.ZoneData

/-!
# Devices

Paths that exist without a file behind them: the local time zone, and two random devices. Each
opening of a random device takes a seed of its own.
-/

namespace SyscallBridge

inductive Device where
  | zone
  | random
  deriving DecidableEq, Repr

namespace Device

def ofPath? : String → Option Device
  | "/etc/localtime" => some zone
  | "/dev/urandom" | "/dev/random" => some random
  | _ => none

def stat : Device → FileStat
  | zone => .regular ZoneData.bytes.length
  | random => .device

end Device

structure Devices where
  seeds : Xoshiro
  deriving DecidableEq, Repr

namespace Devices

def ofSeed (seed : UInt64) : Devices := ⟨.ofSeed seed⟩

def contains (path : String) : Bool := (Device.ofPath? path).isSome

def stat? (path : String) : Option FileStat := (Device.ofPath? path).map Device.stat

def open? (d : Devices) (path : String) : Option (OpenFile × Devices) :=
  (Device.ofPath? path).map fun
    | .zone => (.fixed ZoneData.bytes 0, d)
    | .random =>
      let (seed, seeds) := d.seeds.next
      (.random (.ofSeed seed), ⟨seeds⟩)

end Devices

end SyscallBridge
