import SyscallBridge.Data.Assoc
import SyscallBridge.Error.CallError

/-!
# Descriptor tables

A table maps small numbers to open files of type `φ`. A slot refers to a record, which holds the
file and counts the slots that refer to it; `dup` and `dup2` make several slots refer to one
record. When the last of them is emptied the record goes, and its file is handed back to be closed.
New descriptors take the lowest free slot.
-/

namespace SyscallBridge

/-- Where `dup2` must stay below. -/
def maxDescriptors : Nat := 1024

structure DescriptorRecord (φ : Type) where
  file : φ
  refs : Nat
  deriving Repr

structure DescriptorTable (φ : Type) where
  slots : List (Option Nat) := []
  records : Assoc Nat (DescriptorRecord φ) := {}
  nextRecord : Nat := 0

namespace DescriptorTable

variable {φ : Type}

/-- The record in a slot. -/
def recordId? (t : DescriptorTable φ) (fd : Nat) : Option Nat := (t.slots[fd]?).join

/-- The lowest free slot. -/
def lowestFree (slots : List (Option Nat)) : Nat := slots.findIdx Option.isNone

/-- Puts a record in a slot, after as many empty slots as that takes. -/
def putSlot (slots : List (Option Nat)) (fd : Nat) (r : Option Nat) : List (Option Nat) :=
  if fd < slots.length then slots.set fd r
  else slots ++ (List.replicate (fd - slots.length) none ++ [r])

/-- Puts a record in the lowest free slot. -/
def place (t : DescriptorTable φ) (r : Nat) : Nat × DescriptorTable φ :=
  let fd := lowestFree t.slots
  (fd, { t with slots := putSlot t.slots fd (some r) })

def allocate (t : DescriptorTable φ) (file : φ) : Nat × DescriptorTable φ :=
  let r := t.nextRecord
  place { t with records := t.records.insert r ⟨file, 1⟩, nextRecord := r + 1 } r

def lookup (t : DescriptorTable φ) (fd : Nat) : Except CallError φ :=
  match (t.recordId? fd).bind t.records.find? with
  | some r => .ok r.file
  | none => .error (.badDescriptor fd)

/-- One more slot refers to a record. -/
def retain (t : DescriptorTable φ) (r : Nat) : DescriptorTable φ :=
  { t with records := t.records.modify r fun d => { d with refs := d.refs + 1 } }

/-- One slot less refers to a record; yields the file when it was the last one. -/
def letGo (t : DescriptorTable φ) (r : Nat) : Option φ × DescriptorTable φ :=
  match t.records.find? r with
  | none => (none, t)
  | some d =>
    if d.refs ≤ 1 then (some d.file, { t with records := t.records.erase r })
    else (none, { t with records := t.records.insert r { d with refs := d.refs - 1 } })

/-- Empties a slot; yields the file to close, if this was its last slot. -/
def release (t : DescriptorTable φ) (fd : Nat) : Except CallError (Option φ × DescriptorTable φ) :=
  match t.recordId? fd with
  | none => .error (.badDescriptor fd)
  | some r => .ok ({ t with slots := t.slots.set fd none }.letGo r)

/-- Refers to the same file from the lowest free slot. -/
def dup (t : DescriptorTable φ) (fd : Nat) : Except CallError (Nat × DescriptorTable φ) :=
  match t.recordId? fd with
  | none => .error (.badDescriptor fd)
  | some r => .ok ((t.retain r).place r)

/-- Makes `target` refer to the same file as `fd`; yields the file to close that `target` was the
last to refer to. -/
def dup2 (t : DescriptorTable φ) (fd target : Nat) :
    Except CallError (Option φ × DescriptorTable φ) :=
  if maxDescriptors ≤ target then .error (.badDescriptor target)
  else match t.recordId? fd with
    | none => .error (.badDescriptor fd)
    | some r =>
      if fd = target then .ok (none, t)
      else
        let old := t.recordId? target
        let t := { t.retain r with slots := putSlot t.slots target (some r) }
        match old with
        | some o => .ok (t.letGo o)
        | none => .ok (none, t)

/-- The number of slots that refer to the file of `fd`. -/
def refCount (t : DescriptorTable φ) (fd : Nat) : Nat :=
  (((t.recordId? fd).bind t.records.find?).map DescriptorRecord.refs).getD 0

/-- The number of slots in use. -/
def size (t : DescriptorTable φ) : Nat := t.slots.countP Option.isSome

/-- The descriptors in use, in order. -/
def descriptors (t : DescriptorTable φ) : List Nat :=
  (List.range t.slots.length).filter fun fd => (t.recordId? fd).isSome

/-- Every file that a slot refers to. -/
def files (t : DescriptorTable φ) : List φ := t.records.values.map DescriptorRecord.file

end DescriptorTable

/-- How messages show a descriptor. -/
def descriptorText (fd : Nat) : String := "fd:" ++ toString fd

end SyscallBridge
