import SyscallBridge.Proofs.Address.WireForm
import SyscallBridge.Proofs.Socket.Endpoint

/-!
# Bound addresses as text

A bound socket keeps its address as text and reads it again for every call. What it keeps is always
the text of an address, which reads back as that address, so that all calls are as they would be if
the address itself had been kept: none of them fails on the text.
-/

namespace SyscallBridge

theorem SockAddr.parse_text (a : SockAddr) : SockAddr.parse a.text = .ok a := by
  rw [SockAddr.text, SockAddr.parse_netText, SockAddr.ofNet_toNet]

namespace Socket

variable {s : Socket} {a : SockAddr}

/-- A call on a socket that is bound to an address, told from the address alone. -/
def startAt (s : Socket) (a : SockAddr) : SocketCall → Step
  | .bind peer => s.guarded (s.checkFamily peer) fun _ => s.invalid "socket is already bound"
  | .listen =>
    if s.protocol = .udp then s.failed (.unsupported "listen")
    else .ask s (.listening s.protocol a.toNet)
  | .accept => s.invalid "accept requires a listening socket"
  | .connect peer => s.guarded (s.checkFamily peer) fun _ => s.guarded (checkPort peer) fun _ =>
    .ask s (.connecting s.protocol (some a.toNet) peer)
  | .ownName => s.reply (.address a)
  | .peerName | .read _ | .write _ => s.invalid "socket is not connected"
  | .sendTo data peer => s.guarded (s.checkFamily peer) fun _ =>
    if s.protocol = .tcp then s.invalid "socket is not connected"
    else s.guarded (checkPort peer) fun _ => .ask s (.claiming a.toNet (.send data peer))
  | .receiveFrom size =>
    if s.protocol = .tcp then s.invalid "socket is not connected"
    else .ask s (.claiming a.toNet (.receive size))
  | .stopIo => s.reply .done
  | .close => (s.withEndpoint .closed).reply .done
  | .setDeadline | .setReadDeadline | .setWriteDeadline => s.failed .deadlineUnsupported

theorem boundAddress_addressText (a : SockAddr) : boundAddress a.text = .ok a.toNet :=
  boundAddress_text a.toNet

theorem useDatagram_bound (hs : s.endpoint = .bound a.text) (use : DatagramUse) :
    s.useDatagram use = .ask s (.claiming a.toNet use) := by
  simp only [useDatagram, hs, boundAddress_addressText, guarded]

/-- A socket that is bound to the text of an address reads the text back in every call. -/
theorem start_bound (hs : s.endpoint = .bound a.text) (c : SocketCall) :
    s.start c = s.startAt a c := by
  cases c with
  | bind | accept | peerName | read | write =>
    simp only [start, startAt, startBind, startAccept, startPeerName, startRead, startWrite, hs]
  | listen => simp only [start, startAt, startListen, hs, boundAddress_addressText, guarded]
  | connect peer => simp only [start, startAt, startConnect, hs, boundAddress_addressText, guarded]
  | ownName => simp only [start, startAt, startOwnName, hs, SockAddr.parse_text, guarded]
  | sendTo data peer =>
    simp only [start, startAt, startSendTo, hs, useDatagram_bound hs]
  | receiveFrom size => simp only [start, startAt, startReceiveFrom, hs, useDatagram_bound hs]
  | stopIo =>
    simp only [start, startAt, startStopIo, hs]
    rfl
  | close =>
    simp only [start, startAt, startClose, hs]
    rfl
  | setDeadline | setReadDeadline | setWriteDeadline => rfl

end Socket

/-- What is kept of an address is the text of one. -/
def Endpoint.KeepsText (x : Endpoint) : Prop :=
  ∀ address, x = .bound address → ∃ a : SockAddr, address = a.text

theorem Moves.keepsText {protocol : Protocol} {e : SocketEvent} {x y : Endpoint}
    (h : Moves protocol e x y) (hx : x.KeepsText) : y.KeepsText := by
  intro address hy
  cases h with
  | stays => exact hx address hy
  | binds a =>
    cases hy
    exact ⟨a, rfl⟩
  | givesBack peer p =>
    cases hy
    exact ⟨.ofNet p.own, by rw [SockAddr.text, SockAddr.toNet_ofNet]⟩
  | closes | listens | connects | claims => cases hy

namespace SocketRun

variable {r r' : SocketRun}

theorem keepsText_later (htcp : r.ListensTcp) (hr : r.endpoint.KeepsText) (hl : Later r r') :
    r'.endpoint.KeepsText := by
  induction hl with
  | refl => exact hr
  | step hl e he ih => exact ((htcp.later hl).1.moves he).keepsText ih

/-- Every address reads back from its text, comes back from its other kind, and has one form in
bytes: six or eighteen of them, and all bytes of these lengths are one. Whatever calls are made on a
socket and whatever the host answers, while it is bound every call is as if it kept the address. -/
theorem addresses_come_back :
    (∀ a : SockAddr, SockAddr.parse a.text = .ok a ∧ SockAddr.ofNet a.toNet = a) ∧
    (∀ n : NetAddress, NetAddress.ofBytes n.toBytes = .ok n) ∧
    (∀ bytes, ((∃ n, NetAddress.ofBytes bytes = .ok n) ↔ bytes.length = 6 ∨ bytes.length = 18) ∧
      ∀ n, NetAddress.ofBytes bytes = .ok n → n.toBytes = bytes) ∧
    (∀ s r, (∀ address, s.endpoint ≠ .bound address) → Later (start s) r →
      ∀ address, r.endpoint = .bound address →
        ∃ a : SockAddr, address = a.text ∧ ∀ c, r.socket.start c = r.socket.startAt a c) := by
  refine ⟨fun a => ⟨a.parse_text, a.ofNet_toNet⟩, NetAddress.ofBytes_toBytes, fun bytes => ⟨?_, ?_⟩,
    fun s r hs hl address hr => ?_⟩
  · constructor
    · rintro ⟨n, hn⟩
      by_contra hlength
      rw [NetAddress.ofBytes_eq_error (not_or.1 hlength)] at hn
      cases hn
    · intro hlength
      obtain ⟨n, hn⟩ := NetAddress.exists_toBytes_eq hlength
      exact ⟨n, NetAddress.ofBytes_eq_ok_iff.2 hn⟩
  · exact fun n hn => NetAddress.ofBytes_eq_ok_iff.1 hn
  · have hstart : (start s).endpoint.KeepsText := fun address hbound => absurd hbound (hs address)
    obtain ⟨a, rfl⟩ := keepsText_later (listensTcp_start s) hstart hl address hr
    exact ⟨a, rfl, Socket.start_bound hr⟩

end SocketRun

end SyscallBridge
