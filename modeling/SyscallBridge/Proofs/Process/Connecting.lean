import SyscallBridge.Proofs.Descriptor.Numbers
import SyscallBridge.Proofs.Process.Dialing
import SyscallBridge.Proofs.Process.Resolving

/-!
# Dials that succeed

A dial finds its address as `resolve` does, opens a socket of the address's family at the lowest
free descriptor, and has the host connect it. When nothing else runs meanwhile the socket is still
as it was made when the host answers, and so it is connected to the address that was found.
-/

namespace SyscallBridge.Process

variable {p p' : Process} {n : Network} {network address : String} {a : SockAddr}
  {c : ConnectionHandle} {fd : Nat} {asked : List Exchange}

/-- The socket that a dial makes, before it is connected. -/
def dialedSocket (protocol : Protocol) (a : SockAddr) : Socket := ⟨protocol, a.family, .unbound⟩

/-- What the host is asked for to connect it. -/
def dialRequest (protocol : Protocol) (a : SockAddr) : Request := .dial protocol none a.toNet

/-- `p'` is `p` with a new socket at the lowest free descriptor, connected to `a`. -/
structure Connects (p : Process) (protocol : Protocol) (a : SockAddr) (c : ConnectionHandle)
    (fd : Nat) (p' : Process) : Prop where
  lowest : ∀ d, d < fd → ∃ f, p.table.lookup d = .ok f
  opened : Opened p fd (.socket ⟨protocol, a.family, .connected c a⟩) p'
  peerName : (p'.start (.onSocket fd .peerName)).progress = .done (.ok (.address a))

theorem create_dialed (protocol : Protocol) (a : SockAddr) :
    Socket.create a.family.code (socketType protocol) 0 = .ok (dialedSocket protocol a) := by
  unfold dialedSocket
  cases a <;> cases protocol <;> rfl

theorem Registered.lowest (h : Registered p) (f : OpenFile) {d : Nat} (hd : d < (p.allocate f).1) :
    ∃ g, p.table.lookup d = .ok g := by
  have hlt : d < DescriptorTable.lowestFree p.table.slots := hd
  obtain ⟨r, hr⟩ := DescriptorTable.exists_recordId?_of_lt_lowestFree hlt
  exact h.accounted.exists_lookup_of_slot hr

theorem startConnect_dialed {protocol : Protocol} (hport : a.port ≠ 0) :
    (dialedSocket protocol a).startConnect a =
      .ask (dialedSocket protocol a) (.connecting protocol none a) := by
  have hfamily : (dialedSocket protocol a).checkFamily a = .ok () := if_pos rfl
  have hchecked : Socket.checkPort a = .ok () := if_neg hport
  unfold Socket.startConnect Socket.guarded
  rw [hfamily, hchecked]
  rfl

theorem startConnect_portless (protocol : Protocol) (hport : a.port = 0) :
    ∃ err, (dialedSocket protocol a).startConnect a = .fail (dialedSocket protocol a) err := by
  have hfamily : (dialedSocket protocol a).checkFamily a = .ok () := if_pos rfl
  refine ⟨.malformedAddress (a.text ++ ": port must be nonzero"), ?_⟩
  unfold Socket.startConnect Socket.guarded
  rw [hfamily, Socket.checkPort, if_pos hport]
  rfl

/-- A dial of an address with a port opens a socket at the lowest free descriptor and asks the host
to connect it; an address without a port fails. -/
theorem dialAddress_turn (h : Registered p) (protocol : Protocol) (a : SockAddr) :
    (a.port = 0 → ∃ err, (p.dialAddress protocol a).progress = .done (.error err)) ∧
    (a.port ≠ 0 → ∃ fd p₁, (∀ d, d < fd → ∃ f, p.table.lookup d = .ok f) ∧
      Opened p fd (.socket (dialedSocket protocol a)) p₁ ∧
      p.dialAddress protocol a =
        .ask p₁ (.onSocket p.store.nextFile (.connecting protocol none a) (.dialed fd))) := by
  have hopened := h.opened (.socket (dialedSocket protocol a))
  have hdial : p.dialAddress protocol a =
      (p.allocate (.socket (dialedSocket protocol a))).2.startOnSocket
        (p.allocate (.socket (dialedSocket protocol a))).1
        (.dialed (p.allocate (.socket (dialedSocket protocol a))).1) (.connect a) := by
    rw [dialAddress, create_dialed]
  rw [hdial, hopened.startOnSocket, Socket.start]
  constructor
  · intro hport
    obtain ⟨err, hfail⟩ := startConnect_portless protocol hport
    rw [hfail]
    exact ⟨err, congrArg Turn.progress (socketTurn_error err rfl)⟩
  · intro hport
    rw [startConnect_dialed hport]
    exact ⟨_, _, fun d hd => h.lowest _ hd, hopened.set (.socket (dialedSocket protocol a)), rfl⟩

theorem Opened.peerName {protocol : Protocol}
    (h : Opened p fd (.socket ⟨protocol, a.family, .connected c a⟩) p') :
    (p'.start (.onSocket fd .peerName)).progress = .done (.ok (.address a)) := by
  change (p'.startOnSocket fd .nothing .peerName).progress = _
  rw [h.startOnSocket]
  rfl

/-- The answer of the host ends the dial. -/
theorem dialed_answer {protocol : Protocol} {p₁ : Process}
    (h : Opened p fd (.socket (dialedSocket protocol a)) p₁)
    (hlowest : ∀ d, d < fd → ∃ f, p.table.lookup d = .ok f)
    (answer : Except HostFailure ConnectionHandle) :
    let t := p₁.resume (.onSocket p.store.nextFile (.connecting protocol none a) (.dialed fd)) answer
    (∀ f, answer = .error f → ∃ err, t.progress = .done (.error err)) ∧
    (∀ c, answer = .ok c → t.progress = .done (.ok (.number fd)) ∧
      Connects p protocol a c fd t.state) := by
  intro t
  have ht : t = p₁.socketTurn p.store.nextFile (.dialed fd) (p₁.store.socketTurn p.store.nextFile
      ((dialedSocket protocol a).resume (.connecting protocol none a) answer)) := by
    simp only [t, resume, FileStore.resumeSocket, h.own]
  rw [ht]
  constructor
  · rintro f rfl
    exact ⟨.ofHost f, congrArg Turn.progress (socketTurn_error (.ofHost f) rfl)⟩
  · rintro c rfl
    have hopened := h.set (.socket ⟨protocol, a.family, .connected c a⟩)
    exact ⟨rfl, hlowest, hopened, hopened.peerName⟩

/-- What the process has opened when a dial of a known address ends well, and what the host was
asked for that. -/
theorem completes_dialAddress (h : Registered p) {protocol : Protocol} {r : Reply}
    (halone : ∀ x ∈ asked, x.meanwhile = [])
    (hc : Completes (p.dialAddress protocol a) asked p' (.ok r)) :
    ∃ fd c, asked = [⟨dialRequest protocol a, .ok c, []⟩] ∧ r = .number fd ∧
      Connects p protocol a c fd p' := by
  obtain ⟨hportless, hturn⟩ := dialAddress_turn h protocol a
  by_cases hport : a.port = 0
  · obtain ⟨err, hfail⟩ := hportless hport
    cases (hc.of_done hfail).2.2
  · obtain ⟨fd, p₁, hlowest, hopened, hask⟩ := hturn hport
    rw [hask] at hc
    obtain ⟨meanwhile, answer, rest, rfl, hrest⟩ := hc.of_pending rfl
    -- nothing runs while the host connects
    obtain rfl : meanwhile = [] := halone _ List.mem_cons_self
    change Completes (p₁.resume (.onSocket p.store.nextFile (.connecting protocol none a)
      (.dialed fd)) answer) rest p' (.ok r) at hrest
    obtain ⟨hfails, hconnects⟩ := dialed_answer hopened hlowest answer
    cases hanswer : (answer : Except HostFailure ConnectionHandle) with
    | error f =>
      obtain ⟨err, hfail⟩ := hfails f hanswer
      cases (hrest.of_done hfail).2.2
    | ok c =>
      obtain ⟨hdone, hconnected⟩ := hconnects c hanswer
      obtain ⟨rfl, rfl, hr⟩ := hrest.of_done hdone
      cases hr
      subst hanswer
      exact ⟨fd, c, rfl, rfl, hconnected⟩

theorem dialAddress_completes (h : Registered p) (protocol : Protocol) (hport : a.port ≠ 0)
    (c : ConnectionHandle) : ∃ fd p', Completes (p.dialAddress protocol a)
      [⟨dialRequest protocol a, .ok c, []⟩] p' (.ok (.number fd)) := by
  obtain ⟨fd, p₁, hlowest, hopened, hask⟩ := (dialAddress_turn h protocol a).2 hport
  obtain ⟨hdone, -⟩ := (dialed_answer hopened hlowest (.ok c)).2 c rfl
  generalize p.dialAddress protocol a = t at hask
  subst hask
  exact ⟨fd, _, .asks (q := .onSocket p.store.nextFile (.connecting protocol none a) (.dialed fd)) rfl
    [] (.ok c) (.done hdone)⟩

theorem after_alone {lookups : List Exchange} (h : ∀ x ∈ lookups, x.meanwhile = []) :
    p.after lookups = p := by
  induction lookups with
  | nil => rfl
  | cons x lookups ih =>
    have hx : x.meanwhile = [] := h x List.mem_cons_self
    change (p.run x.meanwhile).after lookups = p
    rw [hx]
    exact ih fun y hy => h y (List.mem_cons_of_mem _ hy)

theorem Found.resolves {lookups : List Exchange} (hf : Found n address lookups a)
    (hn : (network, n) ∈ Network.names) : Completes (p.start (.resolve network address)) lookups
      (p.after lookups) (.ok (.address a)) := by
  have hlocated : Completes ((p.after lookups).located n false a) [] (p.after lookups)
      (.ok (.address a)) := .done rfl
  have hresolve := hf.completes hn hlocated
  rw [List.append_nil] at hresolve
  exact hresolve

theorem found_of_resolves {r : Reply}
    (h : Completes (p.start (.resolve network address)) asked p' (.ok r)) :
    ∃ n a, (network, n) ∈ Network.names ∧ Found n address asked a ∧ r = .address a := by
  obtain ⟨n, lookups, rest, a, hn, hfound, rfl, hlocated⟩ := completes_startLocate h
  obtain ⟨rfl, -, hr⟩ := hlocated.of_done rfl
  cases hr
  rw [List.append_nil]
  exact ⟨n, a, hn, hfound, rfl⟩

/-- In every state that a process comes to, and with any answers of the host. An address that is
resolved is of a family that the network takes; for a name it is the first one of these in the answer
of the host. A dial during which nothing else runs finds its address like that, and when it succeeds
the lowest free descriptor is a new socket of the network's protocol and of that address's family,
connected to that address and naming it as its peer; every other descriptor has the file that it had,
and no other file is changed. A dial succeeds if its address has a port and the host connects it. -/
theorem dial_connects_to_resolved (s : Settings) (earlier : List ProcessEvent)
    (network address : String) :
    let p := (create s).run earlier
    (∀ asked p' r, Completes (p.start (.resolve network address)) asked p' (.ok r) →
      ∃ n a, (network, n) ∈ Network.names ∧ r = .address a ∧ n.hint.accepts a.toNet = true ∧
        ∀ name port, Dialed.Parts address name port → name ≠ [] →
          ∃ before after meanwhile, asked = [⟨.resolve (String.ofList name) port n.hint,
            .ok (before ++ a.toNet :: after), meanwhile⟩] ∧
          ∀ b ∈ before, n.hint.accepts b = false) ∧
    (∀ asked p' r, (∀ x ∈ asked, x.meanwhile = []) →
      Completes (p.start (.dial network address)) asked p' (.ok r) →
      ∃ n a lookups c fd, (network, n) ∈ Network.names ∧
        Completes (p.start (.resolve network address)) lookups p (.ok (.address a)) ∧
        asked = lookups ++ [⟨dialRequest n.protocol a, .ok c, []⟩] ∧ r = .number fd ∧
        Connects p n.protocol a c fd p') ∧
    ∀ lookups a c, (∀ x ∈ lookups, x.meanwhile = []) →
      Completes (p.start (.resolve network address)) lookups p (.ok (.address a)) → a.port ≠ 0 →
      ∃ n fd p', (network, n) ∈ Network.names ∧ Completes (p.start (.dial network address))
        (lookups ++ [⟨dialRequest n.protocol a, .ok c, []⟩]) p' (.ok (.number fd)) := by
  intro p
  have hp : Registered p := (registered_create s).run earlier
  refine ⟨?_, ?_, ?_⟩
  · intro asked p' r h
    obtain ⟨n, a, hn, hfound, rfl⟩ := found_of_resolves h
    refine ⟨n, a, hn, rfl, hfound.accepted, fun name port hparts hname => ?_⟩
    exact hfound.of_named hparts hname
  · intro asked p' r halone h
    change Completes (p.startLocate network address true) asked p' (.ok r) at h
    obtain ⟨n, lookups, rest, a, hn, hfound, rfl, hlocated⟩ := completes_startLocate h
    have hlookups : p.after lookups = p :=
      after_alone fun x hx => halone x (List.mem_append_left _ hx)
    have hresolves := hfound.resolves (p := p) hn
    rw [hlookups] at hlocated hresolves
    obtain ⟨fd, c, rfl, hr, hconnects⟩ :=
      completes_dialAddress hp (fun x hx => halone x (List.mem_append_right _ hx)) hlocated
    exact ⟨n, a, lookups, c, fd, hn, hresolves, rfl, hr, hconnects⟩
  · intro lookups a c halone h hport
    obtain ⟨n, b, hn, hfound, hb⟩ := found_of_resolves h
    cases hb
    obtain ⟨fd, p', hdial⟩ := dialAddress_completes hp n.protocol hport c
    rw [← after_alone (p := p) halone] at hdial
    have hlocated : Completes (p.startLocate network address true)
        (lookups ++ [⟨dialRequest n.protocol a, .ok c, []⟩]) p' (.ok (.number fd)) :=
      hfound.completes hn hdial
    exact ⟨n, fd, p', hn, hlocated⟩

/-- The host gives an address of the other family first. -/
def mixedAnswer : Exchange :=
  ⟨.resolve "localhost" 80 .ipv4, .ok [⟨.v6 .loopback, 80⟩, ⟨.v4 .loopback, 80⟩], []⟩

theorem mixedAnswer_resolves : Completes ((create {}).start (.resolve "tcp4" "localhost:80"))
    [mixedAnswer] (create {}) (.ok (.address (.inet4 .loopback 80))) := by
  have hn : ("tcp4", ⟨.tcp, .ipv4⟩) ∈ Network.names := by decide
  have hparse : Dialed.parse? "localhost:80" = some (.named "localhost" 80) := by decide +kernel
  rw [start_resolve hn, locate, hparse]
  exact .asks (q := .resolving ⟨.tcp, .ipv4⟩ "localhost" 80 false) rfl [] _ (.done rfl)

theorem dial_connects_to_resolved_second_answer :
    let p := (create {}).run []
    let a := SockAddr.inet4 .loopback 80
    ((∀ x ∈ [mixedAnswer], x.meanwhile = []) ∧ a.port ≠ 0 ∧
      Completes (p.start (.resolve "tcp4" "localhost:80")) [mixedAnswer] p (.ok (.address a))) ∧
    (∃ n b, ("tcp4", n) ∈ Network.names ∧ Reply.address a = .address b ∧
      n.hint.accepts b.toNet = true) ∧
    ∃ asked fd p', Completes (p.start (.dial "tcp4" "localhost:80")) asked p' (.ok (.number fd)) ∧
      ∃ n b c, ("tcp4", n) ∈ Network.names ∧ Connects p n.protocol b c fd p' := by
  intro p a
  have halone : ∀ x ∈ [mixedAnswer], x.meanwhile = [] := by
    intro x hx
    rw [List.mem_singleton.mp hx]
    rfl
  have hport : a.port ≠ 0 := by decide
  obtain ⟨hresolve, hdial, hsucceeds⟩ := dial_connects_to_resolved {} [] "tcp4" "localhost:80"
  refine ⟨⟨halone, hport, mixedAnswer_resolves⟩, ?_, ?_⟩
  · obtain ⟨n, b, hn, hb, haccepted, -⟩ := hresolve _ _ _ mixedAnswer_resolves
    exact ⟨n, b, hn, hb, haccepted⟩
  · obtain ⟨n, fd, p', hn, hcompletes⟩ := hsucceeds [mixedAnswer] a
      ⟨.tcp, 0, ⟨.v4 .loopback, 49152⟩, a.toNet⟩ halone mixedAnswer_resolves hport
    have hquiet : ∀ x ∈ [mixedAnswer, ⟨dialRequest n.protocol a,
        .ok ⟨.tcp, 0, ⟨.v4 .loopback, 49152⟩, a.toNet⟩, []⟩], x.meanwhile = [] := by
      intro x hx
      rcases List.mem_cons.mp hx with rfl | hx
      · rfl
      · rw [List.mem_singleton.mp hx]
    obtain ⟨n, b, lookups, c, fd', hn, -, -, hr, hconnects⟩ := hdial _ _ _ hquiet hcompletes
    cases hr
    exact ⟨_, fd, p', hcompletes, n, b, c, hn, hconnects⟩

end SyscallBridge.Process
