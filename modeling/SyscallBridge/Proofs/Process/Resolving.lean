import SyscallBridge.Proofs.Address.Dialed
import SyscallBridge.Proofs.Process.Run

/-!
# Resolving an address

A call of `resolve` knows its address at once or asks the host for one name. `Completes` follows a
call to its end, with what it asks the host, what it is answered, and what else runs meanwhile.
-/

namespace SyscallBridge

namespace Network

theorem mem_of_find? {name name' : String} {n : Network}
    (h : (names.find? fun e => e.1 = name) = some (name', n)) :
    name' = name ∧ (name', n) ∈ names := by
  have hname := List.find?_some h
  exact ⟨of_decide_eq_true hname, List.mem_of_find?_eq_some h⟩

theorem parse_eq_ok_iff {name : String} {n : Network} : parse name = .ok n ↔ (name, n) ∈ names := by
  constructor
  · intro h
    unfold parse at h
    split at h
    · next hfind =>
      cases h
      obtain ⟨rfl, hmem⟩ := mem_of_find? hfind
      exact hmem
    · cases h
  · intro h
    simp only [names, List.mem_cons, List.not_mem_nil, or_false] at h
    rcases h with h | h | h | h | h | h <;> cases h <;> rfl

theorem parse_of_unknown {name : String} (h : ∀ n, (name, n) ∉ names) :
    parse name = .error (.malformedAddress ("unknown network " ++ Quoted.encode name)) := by
  unfold parse
  split
  · next n hfind =>
    obtain ⟨rfl, hmem⟩ := mem_of_find? hfind
    exact absurd hmem (h n)
  · rfl

theorem exists_mem_names_iff {name : String} :
    (∃ n, (name, n) ∈ names) ↔ name ∈ ["tcp", "tcp4", "tcp6", "udp", "udp4", "udp6"] := by
  have hnames : ["tcp", "tcp4", "tcp6", "udp", "udp4", "udp6"] = names.map Prod.fst := rfl
  rw [hnames, List.mem_map]
  constructor
  · rintro ⟨n, hn⟩
    exact ⟨(name, n), hn, rfl⟩
  · rintro ⟨⟨_, n⟩, hn, rfl⟩
    exact ⟨n, hn⟩

end Network

/-- The text is a numeric address of a family that the network refuses, or no address at all. -/
def Network.Refuses (n : Network) (address : String) : Prop :=
  (∃ a, SockAddr.parse address = .ok a ∧ n.hint.accepts a.toNet = false) ∨
    (¬ Dialed.Numeric address ∧ Dialed.Unreadable address)

theorem Network.not_refuses {address : String} {d : Dialed} (h : Dialed.parse? address = some d)
    (hd : ∀ a, d ≠ .numeric a) (n : Network) : ¬ n.Refuses address := by
  rintro (⟨a, ha, -⟩ | ⟨hn, hbad⟩)
  · rw [Dialed.parse?_of_numeric ha] at h
    exact hd a (Option.some.inj h).symm
  · rw [Dialed.parse?_of_unreadable hn hbad] at h
    cases h

/-- The family of the wildcard. -/
def AddressHint.family (hint : AddressHint) : Family := if hint = .ipv6 then .inet6 else .inet4

/-- A request of a call, its answer, and what else the process does while the call waits for it. -/
structure Exchange where
  request : Request
  answer : Except HostFailure request.Answer
  meanwhile : List ProcessEvent

namespace Process

/-- A call whose first turn is `t` ends with a result, after some exchanges with the host. -/
inductive Completes : Step → List Exchange → Process → Except CallError Reply → Prop
  | done {t : Step} {r : Except CallError Reply} (ends : t.progress = .done r) :
    Completes t [] t.state r
  | asks {t : Step} {q : ProcessPending} {asked : List Exchange} {p' : Process}
      {r : Except CallError Reply} (waits : t.progress = .pending q) (meanwhile : List ProcessEvent)
      (answer : Except HostFailure q.request.Answer)
      (rest : Completes ((t.state.run meanwhile).resume q answer) asked p' r) :
    Completes t (⟨q.request, answer, meanwhile⟩ :: asked) p' r

namespace Completes

variable {t : Step} {asked : List Exchange} {p' : Process} {r r' : Except CallError Reply}
  {q : ProcessPending}

theorem of_done (h : Completes t asked p' r) (hd : t.progress = .done r') :
    asked = [] ∧ p' = t.state ∧ r = r' := by
  cases h with
  | done ends =>
    cases hd.symm.trans ends
    exact ⟨rfl, rfl, rfl⟩
  | asks waits =>
    rw [hd] at waits
    cases waits

theorem of_pending (h : Completes t asked p' r) (hq : t.progress = .pending q) :
    ∃ meanwhile answer rest, asked = ⟨q.request, answer, meanwhile⟩ :: rest ∧
      Completes ((t.state.run meanwhile).resume q answer) rest p' r := by
  cases h with
  | done ends =>
    rw [hq] at ends
    cases ends
  | asks waits meanwhile answer rest =>
    cases hq.symm.trans waits
    exact ⟨meanwhile, answer, _, rfl, rest⟩

end Completes

variable {p p' : Process} {n : Network} {network address : String} {dials : Bool}

/-! ### The first turn -/

/-- What the first turn does with an address that is not refused. -/
inductive Takes (p : Process) (n : Network) (address : String) (dials : Bool) : Step → Prop
  | numeric {a : SockAddr} (text : SockAddr.parse address = .ok a)
      (accepted : n.hint.accepts a.toNet = true) : Takes p n address dials (p.located n dials a)
  | wildcard {port : UInt16} (text : Dialed.Parts address [] port) :
    Takes p n address dials
      (p.located n dials ((SockAddr.unspecified n.hint.family).withPort port))
  | named {name : List Char} {port : UInt16} (text : Dialed.Parts address name port)
      (some : name ≠ []) :
    Takes p n address dials (.ask p (.resolving n (String.ofList name) port dials))

theorem locate_of_refuses (h : n.Refuses address) :
    p.locate n address dials = .fail p (.malformedAddress address) := by
  unfold locate
  rcases h with ⟨a, ha, hfamily⟩ | ⟨hn, hbad⟩
  · rw [Dialed.parse?_of_numeric ha]
    dsimp only
    rw [if_neg (by rw [hfamily]; exact Bool.false_ne_true)]
  · rw [Dialed.parse?_of_unreadable hn hbad]

theorem takes_locate (h : ¬ n.Refuses address) :
    Takes p n address dials (p.locate n address dials) := by
  rcases Dialed.numeric_or_parts_or_unreadable address with ⟨a, ha⟩ | ⟨name, port, hparts⟩ | hbad
  · have haccepted : n.hint.accepts a.toNet = true := by
      apply Bool.of_not_eq_false
      intro hfamily
      exact h (.inl ⟨a, ha, hfamily⟩)
    have hlocate : p.locate n address dials = p.located n dials a := by
      unfold locate
      rw [Dialed.parse?_of_numeric ha]
      exact if_pos haccepted
    rw [hlocate]
    exact .numeric ha haccepted
  · by_cases hname : name = []
    · subst hname
      have hlocate : p.locate n address dials =
          p.located n dials ((SockAddr.unspecified n.hint.family).withPort port) := by
        unfold locate
        rw [Dialed.parse?_of_parts hparts]
        rfl
      rw [hlocate]
      exact .wildcard hparts
    · have hlocate : p.locate n address dials =
          .ask p (.resolving n (String.ofList name) port dials) := by
        unfold locate
        rw [Dialed.parse?_of_parts hparts, Dialed.ofParts, if_neg hname]
      rw [hlocate]
      exact .named hparts hname
  · exact absurd (.inr hbad) h

theorem startLocate_of_known (h : (network, n) ∈ Network.names) :
    p.startLocate network address dials = p.locate n address dials := by
  unfold startLocate
  rw [Network.parse_eq_ok_iff.mpr h]

theorem startLocate_of_unknown (h : ∀ n, (network, n) ∉ Network.names) :
    p.startLocate network address dials =
      .fail p (.malformedAddress ("unknown network " ++ Quoted.encode network)) := by
  unfold startLocate
  rw [Network.parse_of_unknown h]

/-! ### The answer of the host -/

/-- How an address is found: it stands in the text, or the host gives it first of all those that the
network accepts. -/
inductive Found (n : Network) (address : String) : List Exchange → SockAddr → Prop
  | numeric {a : SockAddr} (text : SockAddr.parse address = .ok a)
      (accepted : n.hint.accepts a.toNet = true) : Found n address [] a
  | wildcard {port : UInt16} (text : Dialed.Parts address [] port) :
    Found n address [] ((SockAddr.unspecified n.hint.family).withPort port)
  | named {name : List Char} {port : UInt16} {a : SockAddr} {before after : List NetAddress}
      (text : Dialed.Parts address name port) (some : name ≠ [])
      (accepted : n.hint.accepts a.toNet = true)
      (first : ∀ b ∈ before, n.hint.accepts b = false) (meanwhile : List ProcessEvent) :
    Found n address [⟨.resolve (String.ofList name) port n.hint, .ok (before ++ a.toNet :: after),
      meanwhile⟩] a

theorem Found.accepted {asked : List Exchange} {a : SockAddr} (h : Found n address asked a) :
    n.hint.accepts a.toNet = true := by
  cases h with
  | numeric _ haccepted => exact haccepted
  | wildcard => cases hhint : n.hint <;> rfl
  | named _ _ haccepted => exact haccepted

/-- For a name the host has been asked. -/
theorem Found.of_named {asked : List Exchange} {a : SockAddr} (h : Found n address asked a)
    {name : List Char} {port : UInt16} (hparts : Dialed.Parts address name port) (hname : name ≠ []) :
    ∃ before after meanwhile, asked = [⟨.resolve (String.ofList name) port n.hint,
      .ok (before ++ a.toNet :: after), meanwhile⟩] ∧ ∀ b ∈ before, n.hint.accepts b = false := by
  cases h with
  | numeric text => exact absurd ⟨a, text⟩ hparts.other
  | wildcard text => exact absurd (hparts.unique text).1 hname
  | named text _ _ hfirst meanwhile =>
    obtain ⟨rfl, rfl⟩ := hparts.unique text
    exact ⟨_, _, meanwhile, rfl, hfirst⟩

theorem chooseAddress_eq_ok_iff {hint : AddressHint} {found : List NetAddress} {a : SockAddr} :
    chooseAddress hint found = .ok a ↔ hint.accepts a.toNet = true ∧
      ∃ before after, found = before ++ a.toNet :: after ∧
        ∀ b ∈ before, hint.accepts b = false := by
  unfold chooseAddress
  constructor
  · intro h
    split at h
    · next b hfind =>
      cases h
      obtain ⟨haccepted, before, after, hfound, hfirst⟩ := List.find?_eq_some_iff_append.mp hfind
      rw [SockAddr.toNet_ofNet]
      refine ⟨haccepted, before, after, hfound, fun c hc => ?_⟩
      exact Bool.not_eq_true' _ ▸ hfirst c hc
    · cases h
  · rintro ⟨haccepted, before, after, hfound, hfirst⟩
    have hfind : found.find? (fun b => hint.accepts b) = some a.toNet := by
      apply List.find?_eq_some_iff_append.mpr
      refine ⟨haccepted, before, after, hfound, fun c hc => ?_⟩
      rw [hfirst c hc]
      rfl
    rw [hfind]
    dsimp only
    rw [SockAddr.ofNet_toNet]

/-- The process after all that has run while a call waited. -/
def after (p : Process) (asked : List Exchange) : Process :=
  asked.foldl (fun p x => p.run x.meanwhile) p

theorem completes_startLocate {asked : List Exchange} {r : Reply}
    (h : Completes (p.startLocate network address dials) asked p' (.ok r)) :
    ∃ n lookups rest a, (network, n) ∈ Network.names ∧ Found n address lookups a ∧
      asked = lookups ++ rest ∧ Completes ((p.after lookups).located n dials a) rest p' (.ok r) := by
  by_cases hknown : ∃ n, (network, n) ∈ Network.names
  · obtain ⟨n, hn⟩ := hknown
    rw [startLocate_of_known hn] at h
    refine ⟨n, ?_⟩
    by_cases hrefused : n.Refuses address
    · rw [locate_of_refuses hrefused] at h
      cases (h.of_done rfl).2.2
    · have htakes : Takes p n address dials (p.locate n address dials) := takes_locate hrefused
      revert htakes
      generalize p.locate n address dials = t at h
      intro htakes
      cases htakes with
      | @numeric a text haccepted => exact ⟨[], asked, a, hn, .numeric text haccepted, rfl, h⟩
      | wildcard text => exact ⟨[], asked, _, hn, .wildcard text, rfl, h⟩
      | @named name port text hname =>
        obtain ⟨meanwhile, answer, rest, rfl, hrest⟩ := h.of_pending rfl
        change Completes ((p.run meanwhile).resume (.resolving n (String.ofList name) port dials)
          answer) rest p' (.ok r) at hrest
        cases answer with
        | error f => cases (hrest.of_done rfl).2.2
        | ok found =>
          simp only [resume] at hrest
          split at hrest
          · cases (hrest.of_done rfl).2.2
          · next a hchosen =>
            obtain ⟨haccepted, before, later, rfl, hfirst⟩ := chooseAddress_eq_ok_iff.mp hchosen
            exact ⟨_, rest, a, hn, .named text hname haccepted hfirst meanwhile, rfl, hrest⟩
  · rw [startLocate_of_unknown (not_exists.mp hknown)] at h
    cases (h.of_done rfl).2.2

theorem Found.completes {lookups rest : List Exchange} {a : SockAddr} {r : Except CallError Reply}
    (hf : Found n address lookups a) (hn : (network, n) ∈ Network.names)
    (h : Completes ((p.after lookups).located n dials a) rest p' r) :
    Completes (p.startLocate network address dials) (lookups ++ rest) p' r := by
  rw [startLocate_of_known hn]
  unfold locate
  cases hf with
  | numeric text haccepted =>
    rw [Dialed.parse?_of_numeric text]
    dsimp only
    rw [if_pos haccepted]
    exact h
  | wildcard text =>
    rw [Dialed.parse?_of_parts text]
    exact h
  | @named name port _ before later text hname haccepted hfirst meanwhile =>
    rw [Dialed.parse?_of_parts text, Dialed.ofParts, if_neg hname]
    have hchosen := chooseAddress_eq_ok_iff.mpr ⟨haccepted, before, later, rfl, hfirst⟩
    refine .asks (q := .resolving n (String.ofList name) port dials) rfl meanwhile _ ?_
    simp only [resume]
    rw [hchosen]
    exact h

/-! ### Calls of `resolve` -/

/-- What `resolve` does with an address that is not refused: a numeric one is the reply as it is, a
port alone stands for the wildcard, and the host is asked for a name. -/
inductive Resolves (p : Process) (n : Network) (address : String) : Step → Prop
  | numeric {a : SockAddr} (text : SockAddr.parse address = .ok a) :
    Resolves p n address (.ok p (.address a))
  | wildcard {port : UInt16} (text : Dialed.Parts address [] port) : Resolves p n address
      (.ok p (.address ((SockAddr.unspecified n.hint.family).withPort port)))
  | named {name : List Char} {port : UInt16} {q : ProcessPending}
      (text : Dialed.Parts address name port) (some : name ≠ [])
      (asked : q.request = .resolve (String.ofList name) port n.hint) :
    Resolves p n address (.ask p q)

theorem Takes.resolves {t : Step} (h : Takes p n address false t) : Resolves p n address t := by
  cases h with
  | numeric text => exact .numeric text
  | wildcard text => exact .wildcard text
  | named text hname => exact .named text hname rfl

theorem ofHost_ne_malformed (f : HostFailure) (text : String) :
    CallError.ofHost f ≠ .malformedAddress text := by
  unfold CallError.ofHost
  split <;> exact nofun

theorem start_resolve (hn : (network, n) ∈ Network.names) :
    p.start (.resolve network address) = p.locate n address false := by
  change p.startLocate network address false = _
  exact startLocate_of_known hn

/-- No answer of the host makes an address malformed. -/
theorem not_malformed_of_takes {t : Step} {asked : List Exchange} {text : String}
    (ht : Takes p n address false t) :
    ¬ Completes t asked p' (.error (.malformedAddress text)) := by
  intro h
  cases ht with
  | numeric | wildcard => cases (h.of_done rfl).2.2
  | @named name port =>
    obtain ⟨meanwhile, answer, rest, -, hrest⟩ := h.of_pending rfl
    change Completes ((p.run meanwhile).resume (.resolving n (String.ofList name) port false)
      answer) rest p' _ at hrest
    cases answer with
    | error f =>
      have hresult := (hrest.of_done rfl).2.2
      exact ofHost_ne_malformed f text (Except.error.inj hresult).symm
    | ok found =>
      simp only [resume, chooseAddress] at hrest
      cases hfind : found.find? fun b => n.hint.accepts b with
      | none =>
        rw [hfind] at hrest
        cases (hrest.of_done rfl).2.2
      | some b =>
        rw [hfind] at hrest
        cases (hrest.of_done rfl).2.2

/-- An address is malformed exactly when the network is unknown or refuses it, whatever the host
answers and whatever else goes on; and every other address is taken for what it stands for. -/
theorem resolve_reads_address (p : Process) (network address : String) :
    ((∃ asked p' text, Completes (p.start (.resolve network address)) asked p'
        (.error (.malformedAddress text))) ↔
      network ∉ ["tcp", "tcp4", "tcp6", "udp", "udp4", "udp6"] ∨
        ∃ n, (network, n) ∈ Network.names ∧ n.Refuses address) ∧
    ∀ n, (network, n) ∈ Network.names → ¬ n.Refuses address →
      Resolves p n address (p.start (.resolve network address)) := by
  have htakes : ∀ n, (network, n) ∈ Network.names → ¬ n.Refuses address →
      Takes p n address false (p.start (.resolve network address)) := by
    intro n hn hrefused
    rw [start_resolve hn]
    exact takes_locate hrefused
  refine ⟨⟨?_, ?_⟩, fun n hn hrefused => (htakes n hn hrefused).resolves⟩
  · rintro ⟨asked, p', text, h⟩
    by_cases hknown : network ∈ ["tcp", "tcp4", "tcp6", "udp", "udp4", "udp6"]
    · obtain ⟨n, hn⟩ := Network.exists_mem_names_iff.mpr hknown
      refine .inr ⟨n, hn, ?_⟩
      by_contra hrefused
      exact not_malformed_of_takes (htakes n hn hrefused) h
    · exact .inl hknown
  · intro h
    -- the first turn fails already
    rcases h with hunknown | ⟨n, hn, hrefused⟩
    · have hnone : ∀ n, (network, n) ∉ Network.names :=
        fun n hn => hunknown (Network.exists_mem_names_iff.mp ⟨n, hn⟩)
      change ∃ asked p' text, Completes (p.startLocate network address false) asked p' _
      rw [startLocate_of_unknown hnone]
      exact ⟨[], p, _, .done rfl⟩
    · rw [start_resolve hn, locate_of_refuses hrefused]
      exact ⟨[], p, address, .done rfl⟩

theorem resolve_reads_port_alone :
    (("tcp6", ⟨.tcp, .ipv6⟩) ∈ Network.names ∧ ¬ Network.Refuses ⟨.tcp, .ipv6⟩ ":80") ∧
      Resolves (create {}) ⟨.tcp, .ipv6⟩ ":80" ((create {}).start (.resolve "tcp6" ":80")) := by
  have hn : ("tcp6", ⟨.tcp, .ipv6⟩) ∈ Network.names := by decide
  have hparse : Dialed.parse? ":80" = some (.wildcard 80) := by decide +kernel
  have hrefused := Network.not_refuses hparse (by exact nofun) ⟨.tcp, .ipv6⟩
  exact ⟨⟨hn, hrefused⟩, (resolve_reads_address (create {}) "tcp6" ":80").2 _ hn hrefused⟩

/-- A port with a sign in front is no decimal number, and is resolved all the same. -/
theorem signed_port_resolves :
    let answer : NetAddress := ⟨.v4 .loopback, 80⟩
    ¬ Dialed.Numeric "localhost:+80" ∧
    Dialed.Divided "localhost:+80".toList "localhost".toList "+80".toList ∧
    (∀ n, ¬ Dialed.Decimal "+80".toList n) ∧
    Completes ((create {}).start (.resolve "tcp" "localhost:+80"))
      [⟨.resolve "localhost" 80 .any, .ok [answer], []⟩] (create {})
      (.ok (.address (.ofNet answer))) ∧
    ∀ asked p' text, ¬ Completes ((create {}).start (.resolve "tcp" "localhost:+80")) asked p'
      (.error (.malformedAddress text)) := by
  intro answer
  have hn : ("tcp", ⟨.tcp, .any⟩) ∈ Network.names := by decide
  have hparse : Dialed.parse? "localhost:+80" = some (.named "localhost" 80) := by decide +kernel
  have hstart : (create {}).start (.resolve "tcp" "localhost:+80") =
      (create {}).locate ⟨.tcp, .any⟩ "localhost:+80" false := start_resolve hn
  have hlocate : (create {}).locate ⟨.tcp, .any⟩ "localhost:+80" false =
      .ask (create {}) (.resolving ⟨.tcp, .any⟩ "localhost" 80 false) := by
    rw [locate, hparse]
  rw [hstart]
  refine ⟨?_, ⟨by decide, by decide⟩, ?_, ?_, ?_⟩
  · rintro ⟨a, ha⟩
    rw [Dialed.parse?_of_numeric ha] at hparse
    cases hparse
  · intro n hdecimal
    have hplus := hdecimal.digits '+' (by decide)
    exact absurd hplus (by decide)
  · rw [hlocate]
    exact .asks (q := .resolving ⟨.tcp, .any⟩ "localhost" 80 false) rfl [] (.ok [answer])
      (.done rfl)
  · intro asked p' text
    exact not_malformed_of_takes (takes_locate (Network.not_refuses hparse (by exact nofun) _))

end Process

end SyscallBridge
