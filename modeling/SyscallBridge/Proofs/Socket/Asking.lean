import SyscallBridge.Socket.Call

/-!
# What a waiting call asks of

A socket call that has to wait asks the host something of the resource in the endpoint, or something
that is of no resource.
-/

namespace SyscallBridge

/-- The call waits to accept. -/
def SocketPending.accepts : SocketPending → Bool
  | accepting _ => true
  | _ => false

def SocketCall.accepts : SocketCall → Bool
  | accept => true
  | _ => false

/-- A call that waits asks of the resource in the endpoint, if of any; and it accepts or does
not. -/
def Socket.Step.AsksOwn (accepts : Bool) (t : Socket.Step) : Prop :=
  ∀ q, t.progress = .pending q → q.accepts = accepts ∧
    ∀ x, q.request.resource? = some x → t.state.endpoint.resource? = some x

namespace Socket

variable {s : Socket} {accepts : Bool}

theorem Step.AsksOwn.done {s' : Socket} {effects : List Effect}
    {result : Except CallError SocketReply} : Step.AsksOwn accepts ⟨s', effects, .done result⟩ :=
  fun _ hq => nomatch hq

theorem Step.AsksOwn.guarded {α : Type} {check : Except CallError α} {next : α → Step}
    (h : ∀ a, (next a).AsksOwn accepts) : (s.guarded check next).AsksOwn accepts := by
  cases check with
  | ok a => exact h a
  | error e => exact .done

theorem Step.AsksOwn.answered {α : Type} {answer : Except HostFailure α} {next : α → Step}
    (h : ∀ a, (next a).AsksOwn accepts) : (s.answered answer next).AsksOwn accepts := by
  cases answer with
  | ok a => exact h a
  | error f => exact .done

theorem Step.AsksOwn.pending {s' : Socket} {effects : List Effect} {q : SocketPending}
    (hq : q.accepts = accepts)
    (h : ∀ x, q.request.resource? = some x → s'.endpoint.resource? = some x) :
    Step.AsksOwn accepts ⟨s', effects, .pending q⟩ := by
  intro q' hq'
  cases hq'
  exact ⟨hq, h⟩

theorem asksOwn_useDatagram (s : Socket) (use : DatagramUse) :
    (s.useDatagram use).AsksOwn false := by
  rw [useDatagram]
  split
  · rename_i p hp
    cases use <;> exact .pending rfl fun x hx => hp ▸ hx
  · exact .pending rfl fun x hx => nomatch hx
  · exact .guarded fun a => .pending rfl fun x hx => nomatch hx
  · exact .done
  · exact .done

/-- A call on a connected socket that asks of the connection. -/
theorem asksOwn_connected {c : ConnectionHandle} {peer : SockAddr} {q : SocketPending}
    (hs : s.endpoint = .connected c peer) (hq : q.accepts = false)
    (hx : ∀ x, q.request.resource? = some x → some c.resource = some x) :
    Step.AsksOwn false (.ask s q) := .pending hq fun x h => by
  rw [hs]
  exact hx x h

theorem asksOwn_start (s : Socket) (c : SocketCall) : (s.start c).AsksOwn c.accepts := by
  cases c with
  | bind a =>
    refine .guarded fun _ => ?_
    split <;> exact .done
  | listen =>
    change s.startListen.AsksOwn false
    rw [startListen]
    split
    · exact .done
    · split
      · exact .guarded fun a => .pending rfl fun x hx => nomatch hx
      all_goals exact .done
  | accept =>
    change s.startAccept.AsksOwn true
    rw [startAccept]
    split
    · rename_i l hl
      refine .pending rfl fun x hx => ?_
      rw [hl]
      exact hx
    all_goals exact .done
  | connect a =>
    refine .guarded fun _ => .guarded fun _ => ?_
    split
    · exact .pending rfl fun x hx => nomatch hx
    · exact .guarded fun own => .pending rfl fun x hx => nomatch hx
    · dsimp only
      split
      · exact .pending rfl fun x hx => nomatch hx
      · exact .done
    all_goals exact .done
  | ownName =>
    change s.startOwnName.AsksOwn false
    rw [startOwnName]
    split
    · exact .done
    · exact .guarded fun a => .done
    all_goals exact .done
  | peerName =>
    change s.startPeerName.AsksOwn false
    rw [startPeerName]
    split <;> exact .done
  | read size =>
    change (s.startRead size).AsksOwn false
    rw [startRead]
    split
    · rename_i hs
      exact asksOwn_connected hs rfl fun x hx => hx
    all_goals exact .done
  | write data =>
    change (s.startWrite data).AsksOwn false
    rw [startWrite]
    split
    · rename_i hs
      exact asksOwn_connected hs rfl fun x hx => hx
    all_goals exact .done
  | sendTo data a =>
    refine .guarded fun _ => ?_
    split
    · rename_i hs
      split
      · exact .done
      · exact asksOwn_connected hs rfl fun x hx => hx
    · split
      · exact .done
      · exact .guarded fun _ => asksOwn_useDatagram s _
  | receiveFrom size =>
    change (s.startReceiveFrom size).AsksOwn false
    rw [startReceiveFrom]
    split
    · rename_i hs
      exact asksOwn_connected hs rfl fun x hx => hx
    · split
      · exact .done
      · exact asksOwn_useDatagram s _
  | stopIo | close | setDeadline | setReadDeadline | setWriteDeadline => exact .done

theorem asksOwn_resume (s : Socket) (p : SocketPending)
    (a : Except HostFailure p.request.Answer) : (s.resume p a).AsksOwn false := by
  cases p with
  | listening =>
    refine .answered fun (l : ListenerHandle) => ?_
    rw [resumeListen]
    split <;> exact .done
  | connecting protocol own target =>
    refine .answered fun (c : ConnectionHandle) => ?_
    rw [resumeConnect]
    split <;> exact .done
  | claiming own use =>
    refine .answered fun (port : PortHandle) => ?_
    rw [resumeClaim]
    split
    · exact asksOwn_useDatagram _ use
    · exact asksOwn_useDatagram _ use
    · exact asksOwn_useDatagram s use
    · exact .done
  | accepting | writing | sending | receiving => exact .answered fun _ => .done
  | reading | readingFrom => exact .guarded fun _ => .done

end Socket

end SyscallBridge
