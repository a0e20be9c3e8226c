import SyscallBridge.Host.Console
import SyscallBridge.Host.Request
import SyscallBridge.Notice

/-!
# Turns of a call

A call runs until it is done or until it needs an answer from the host; what runs between the
two is one turn. A turn yields the new state, the effects it has on the outside, and either the
result of the call or what is pending. Anything may happen to the state before the answer comes.
-/

namespace SyscallBridge

inductive Effect where
  /-- Write to the console. -/
  | log (r : LogRecord)
  /-- Close a resource of the host. -/
  | close (r : Resource)
  | notice (n : Notice)
  deriving DecidableEq, Repr

/-- A call that is done, with a result of type `ρ`, or pending as `π` says. -/
inductive Progress (ρ π : Type) where
  | done (result : Except CallError ρ)
  | pending (p : π)

def Progress.map {ρ π ρ' π' : Type} (f : ρ → ρ') (g : π → π') : Progress ρ π → Progress ρ' π'
  | done result => done (result.map f)
  | pending p => pending (g p)

structure Turn (σ ρ π : Type) where
  state : σ
  effects : List Effect
  progress : Progress ρ π

namespace Turn

variable {σ ρ π : Type}

def ok (s : σ) (r : ρ) : Turn σ ρ π := ⟨s, [], .done (.ok r)⟩

def fail (s : σ) (e : CallError) : Turn σ ρ π := ⟨s, [], .done (.error e)⟩

def result (s : σ) (r : Except CallError ρ) : Turn σ ρ π := ⟨s, [], .done r⟩

def ask (s : σ) (p : π) : Turn σ ρ π := ⟨s, [], .pending p⟩

def map {σ' ρ' π' : Type} (f : σ → σ') (g : ρ → ρ') (k : π → π') (t : Turn σ ρ π) :
    Turn σ' ρ' π' :=
  ⟨f t.state, t.effects, t.progress.map g k⟩

end Turn

end SyscallBridge
