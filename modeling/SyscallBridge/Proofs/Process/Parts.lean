import Mathlib.Logic.Relation
import SyscallBridge.Proofs.Descriptor.Slots
import SyscallBridge.Proofs.Process.Run

/-!
# The parts of a turn

Apart from what is done to the file system, to the environment and to plain files, a turn opens
sockets, goes on with sockets and moves descriptors. What these few parts keep is kept by every call
that is made of them.
-/

namespace SyscallBridge

/-- Calls on sockets and descriptors, and those that only look. -/
def Syscall.inParts : Syscall → Bool
  | .open_ .. | .onFile .. | .mkdir _ | .rmdir _ | .symlink .. | .unlink _ | .setenv .. |
    .unsetenv _ => false
  | _ => true

namespace Process

inductive Part (p : Process) : Process → Prop
  | opens (s : Socket) : Part p (p.allocate (.socket s)).2
  | turns (file : Nat) (s : Socket) (socket : (p.store.file file).socket?.isSome) :
    Part p (p.ofStore (p.store.set file (.socket s)))
  /-- A table drops a record at most, and the file of that record is closed. -/
  | drops {table : DescriptorTable Nat} {shut : Option Nat}
    (accounted : p.table.Accounted none → table.Accounted none)
    (drops : DescriptorTable.Drops p.table table shut) :
    Part p (Process.closeFile { p with table } shut).1

abbrev Parts : Process → Process → Prop := Relation.ReflTransGen Part

variable {p p' : Process}

/-! ### Calls that are made of parts -/

theorem parts_release {fd : Nat} {effects : List Effect} (h : p.release fd = .ok (p', effects)) :
    Parts p p' := by
  unfold release at h
  cases hr : p.table.release fd with
  | error e =>
    rw [hr] at h
    cases h
  | ok released =>
    obtain ⟨shut, table⟩ := released
    rw [hr] at h
    have hp : Process.closeFile { p with table } shut = (p', effects) := Except.ok.inj h
    have hpart : Part p (Process.closeFile { p with table } shut).1 :=
      .drops (fun hacc => hacc.release hr) (DescriptorTable.release_drops hr)
    rw [hp] at hpart
    exact .single hpart

theorem parts_finish (p : Process) (next : Afterwards) (result : Except CallError SocketReply) :
    Parts p (p.finish next result).1 := by
  unfold finish
  split
  · exact .refl
  · exact .refl
  · exact .single (.opens _)
  · exact .refl
  · exact .refl
  · exact .refl
  · split
    · next hr => exact parts_release hr
    · exact .refl

theorem parts_socketTurn {file : Nat} (next : Afterwards)
    {t : Turn FileStore SocketReply SocketPending} (ht : Parts p (p.ofStore t.state)) :
    Parts p (p.socketTurn file next t).state := by
  unfold socketTurn
  cases t.progress with
  | pending q => exact ht
  | done result => exact ht.trans (parts_finish _ next result)

theorem parts_startOnSocket (p : Process) (fd : Nat) (next : Afterwards) (c : SocketCall) :
    Parts p (p.startOnSocket fd next c).state := by
  unfold startOnSocket
  split
  · exact .refl
  · split
    · exact .refl
    · next hs => exact parts_socketTurn next (.single (.turns _ _ (hs ▸ rfl)))

theorem parts_located (p : Process) (network : Network) (dials : Bool) (a : SockAddr) :
    Parts p (p.located network dials a).state := by
  unfold located
  split
  · unfold dialAddress
    split
    · exact .refl
    · exact .head (.opens _) (parts_startOnSocket _ _ _ _)
  · exact .refl

theorem parts_startLocate (p : Process) (network address : String) (dials : Bool) :
    Parts p (p.startLocate network address dials).state := by
  unfold startLocate
  split
  · exact .refl
  · unfold locate
    split
    · exact .refl
    · split
      · exact parts_located _ _ dials _
      · exact .refl
    · exact parts_located _ _ dials _
    · exact .refl

theorem parts_startClose (p : Process) (fd : Nat) : Parts p (p.startClose fd).state := by
  unfold startClose
  split
  · exact .refl
  · next hr => exact parts_release hr

theorem parts_startDup2 (p : Process) (fd target : Nat) :
    Parts p (p.startDup2 fd target).state := by
  unfold startDup2
  split
  · exact .refl
  · next hok =>
    exact .single (.drops (fun hacc => hacc.dup2 hok) (DescriptorTable.dup2_drops hok))

theorem parts_dup (p : Process) (fd : Nat) : Parts p (p.start (.dup fd)).state := by
  simp only [start]
  split
  · next hok =>
    exact .single (.drops (fun hacc => hacc.dup hok) (DescriptorTable.dup_drops hok))
  · exact .refl

theorem parts_start (p : Process) {c : Syscall} (hc : c.inParts = true) :
    Parts p (p.start c).state := by
  cases c with
  | close fd => exact parts_startClose p fd
  | dup fd => exact parts_dup p fd
  | dup2 fd target => exact parts_startDup2 p fd target
  | socket domain type protocol =>
    simp only [start, startSocket]
    split
    · exact .refl
    · exact .single (.opens _)
  | onSocket fd c => cases c <;> exact parts_startOnSocket p fd _ _
  | resolve network address => exact parts_startLocate p network address false
  | dial network address => exact parts_startLocate p network address true
  | fsync | stat | readlink | getenv | environ | getpid | missing => exact .refl
  | open_ | onFile | mkdir | rmdir | symlink | unlink | setenv | unsetenv => cases hc

theorem parts_resume (p : Process) (q : ProcessPending)
    (a : Except HostFailure q.request.Answer) : Parts p (p.resume q a).state := by
  cases q with
  | onSocket file q next =>
    refine parts_socketTurn next ?_
    unfold FileStore.resumeSocket
    split
    · next hs => exact .single (.turns _ _ (hs ▸ rfl))
    · exact .refl
  | resolving network name port dials =>
    cases a with
    | error f => exact .refl
    | ok found =>
      simp only [resume]
      split
      · exact .refl
      · exact parts_located _ network dials _

end Process

end SyscallBridge
