import Mathlib.Data.List.Perm.Subperm
import SyscallBridge.Proofs.Host.LiveResources
import SyscallBridge.Proofs.Host.PortSearch

/-!
# Requests for any port

A listener, a datagram port and the near side of a dial are asked for at an address, and port zero
there asks for any port. Such a request is answered if it is turned down at once, or else if some
port is free at its address; with fewer live resources than ports one is. When every port is taken
there is nothing to answer, and the search for one goes on for good.
-/

namespace SyscallBridge

/-- The address that was got for a request, as the answer tells it. -/
def Request.got? : (r : Request) → r.Answer → Option NetAddress
  | .listen .., l => some l.address
  | .dial .., c => some c.own
  | .bindPort _, p => some p.own
  | _, _ => none

namespace InProcessHost

open InProcess

variable {h h' : InProcessHost} {like a b : NetAddress} {q : UInt16} {r : Request}
  {standing : List Opening}

/-- Turned down before any port is looked for: nothing listens for datagrams, and a stream takes a
listener at its other end. -/
def TurnsDown (h : InProcessHost) : Request → Prop
  | .listen .udp _ => True
  | .dial .tcp _ peer => h.listenerFor? peer = none
  | _ => False

theorem poll?_of_turnsDown (hd : h.TurnsDown r) : ∃ f, h.poll? r = some (.error f, h) := by
  cases r with
  | listen protocol a =>
    cases protocol with
    | tcp => exact hd.elim
    | udp => exact ⟨.notSupported, rfl⟩
  | dial protocol own peer =>
    cases protocol with
    | tcp =>
      have hnone : h.listenerFor? peer = none := hd
      refine ⟨.connectionRefused, ?_⟩
      change h.dialStream own peer = _
      rw [dialStream, startStream?, hnone]
      rfl
    | udp => exact hd.elim
  | _ => exact hd.elim

/-! ### Settled addresses -/

theorem settlePort?_of_any (ha : a.port = 0) : h.settlePort? a = h.anyPort? a := if_pos ha

theorem poll?_of_unsettled (ho : r.own? = some a) (hd : ¬ h.TurnsDown r)
    (hs : h.settlePort? a = none) : h.poll? r = none := by
  cases r with
  | listen protocol x =>
    cases ho
    cases protocol with
    | tcp => simp only [poll?, listen, hs, Option.bind_eq_bind, Option.bind_none]
    | udp => exact absurd trivial hd
  | dial protocol own peer =>
    cases ho
    cases protocol with
    | tcp =>
      obtain ⟨l, hl⟩ := Option.ne_none_iff_exists'.mp hd
      simp only [poll?, dialStream, startStream?, hl, ownAddress?, hs, Option.bind_eq_bind,
        Option.bind_none]
    | udp => simp only [poll?, dialDatagram, ownAddress?, hs, Option.bind_eq_bind, Option.bind_none]
  | bindPort x =>
    cases ho
    simp only [poll?, bindPort, hs, Option.bind_eq_bind, Option.bind_none]
  | _ => cases ho

/-- A stream is dialed to a listener that is there. -/
def Reaches (h : InProcessHost) : Request → Prop
  | .dial .tcp _ peer => ∀ n, h.listenerFor? peer = some n → h.listeners.contains n = true
  | _ => True

theorem Tally.reaches (ht : h.Tally standing) (r : Request) : h.Reaches r := by
  unfold Reaches
  split
  · exact fun _ => ht.contains_of_route
  · trivial

theorem openPort_of_free (hfree : h.isFree b = true) : ∃ g, h.openPort b = (.ok h.nextId, g) ∧
    g.nextPort = h.nextPort := by
  have hbound : ¬ h.bound.contains b = true := by
    have hboth := hfree
    simp only [isFree, Bool.and_eq_true, Bool.not_eq_true'] at hboth
    simp [hboth.2]
  exact ⟨_, if_neg hbound, rfl⟩

/-- At an address that is free nothing else is in the way. -/
theorem poll?_of_settled (ho : r.own? = some a) (hd : ¬ h.TurnsDown r) (hr : h.Reaches r)
    (hs : h.settlePort? a = some (b, h')) (hfree : h'.isFree b = true) :
    ∃ c g, h.poll? r = some (.ok c, g) ∧ r.got? c = some b ∧ g.nextPort = h'.nextPort := by
  cases r with
  | listen protocol x =>
    cases ho
    cases protocol with
    | tcp =>
      have hlistening : ¬ h'.listening.contains b = true := by
        have hboth := hfree
        simp only [isFree, Bool.and_eq_true, Bool.not_eq_true'] at hboth
        simp [hboth.1]
      refine ⟨⟨h'.nextId, b⟩, ?_⟩
      simp only [poll?, listen, hs, Option.bind_eq_bind, Option.bind_some, if_neg hlistening]
      exact ⟨_, rfl, rfl, rfl⟩
    | udp => exact absurd trivial hd
  | dial protocol own peer =>
    cases ho
    cases protocol with
    | tcp =>
      obtain ⟨l, hl⟩ := Option.ne_none_iff_exists'.mp hd
      obtain ⟨⟨next, rfl⟩, -⟩ := settlePort?_eq_some hs
      refine ⟨⟨.tcp, h.nextId, b, peer⟩, ?_⟩
      simp only [poll?, dialStream, startStream?, hl, ownAddress?, hs, Option.bind_eq_bind,
        Option.bind_some, deliverStream]
      exact ⟨_, congrArg some (if_pos (hr l hl)), rfl, rfl⟩
    | udp =>
      obtain ⟨g, hg, hnext⟩ := openPort_of_free hfree
      refine ⟨⟨.udp, h'.nextId, b, peer⟩, g, ?_, rfl, hnext⟩
      simp only [poll?, dialDatagram, ownAddress?, hs, hg, Option.bind_eq_bind, Option.bind_some]
      rfl
  | bindPort x =>
    cases ho
    obtain ⟨g, hg, hnext⟩ := openPort_of_free hfree
    refine ⟨⟨h'.nextId, b⟩, g, ?_, rfl, hnext⟩
    simp only [poll?, bindPort, hs, hg, Option.bind_eq_bind, Option.bind_some]
    rfl
  | _ => cases ho

/-- The answer to a request whose search ends, and where the next search goes on. -/
theorem poll?_of_finds (hp : Handed h.nextPort) (ha : r.AsksPort like) (hd : ¬ h.TurnsDown r)
    (hr : h.Reaches r) (hf : Finds h like h.nextPort q) : ∃ c g, h.poll? r = some (.ok c, g) ∧
      r.got? c = some (like.withPort q) ∧ g.nextPort = portAfter q := by
  have hany : h.anyPort? like = some (like.withPort q, { h with nextPort := portAfter q }) :=
    (anyPort?_eq_some_iff hp).mpr ⟨q, hf, rfl, rfl⟩
  rw [← settlePort?_of_any ha.any] at hany
  exact poll?_of_settled ha.own hd hr hany hf.ends_free

theorem poll?_of_not_finds (hp : Handed h.nextPort) (ha : r.AsksPort like)
    (hd : ¬ h.TurnsDown r) (hnot : ∀ q, ¬ Finds h like h.nextPort q) : h.poll? r = none := by
  apply poll?_of_unsettled ha.own hd
  rw [settlePort?_of_any ha.any, Option.eq_none_iff_forall_ne_some]
  rintro ⟨b, g⟩ hsome
  obtain ⟨q, hf, -⟩ := (anyPort?_eq_some_iff hp).mp hsome
  exact hnot q hf

/-! ### Free addresses -/

/-- An address is free when no open listener and no open datagram port has it. -/
theorem Tally.isFree_iff (ht : h.Tally standing) (hr : h.Registered) (a : NetAddress) :
    h.isFree a = true ↔ ∀ x, ¬ h.Stands ⟨x, some a⟩ := by
  simp only [isFree, Bool.and_eq_true, Bool.not_eq_true', Bool.eq_false_iff, ne_eq,
    Assoc.contains, Option.isSome_iff_exists, ht.listening, ht.bound hr, not_exists, ht.stands]
  constructor
  · rintro ⟨hlisteners, hports⟩ x
    cases x with
    | listener id => exact hlisteners id
    | port id => exact hports id
    | stream | channel | server => simp [Stands, Holds, entryOf, Stream.entry, Channel.entry]
  · intro hnone
    exact ⟨fun id => hnone _, fun id => hnone _⟩

/-- The address with each port that is handed out. -/
def everyPort (like : NetAddress) : List NetAddress :=
  (List.range portCount).map fun i => like.withPort (UInt16.ofNat (49152 + i))

theorem toNat_ofNat_handed {i : Nat} (hi : i < portCount) :
    (UInt16.ofNat (49152 + i)).toNat = 49152 + i := by
  unfold portCount at hi
  rw [UInt16.toNat_ofNat']
  omega

theorem nodup_everyPort (like : NetAddress) : (everyPort like).Nodup := by
  apply List.Nodup.map_on _ List.nodup_range
  intro i hi j hj heq
  have hport := congrArg (fun a : NetAddress => a.port.toNat) heq
  dsimp only [NetAddress.withPort] at hport
  rw [toNat_ofNat_handed (List.mem_range.mp hi), toNat_ofNat_handed (List.mem_range.mp hj)] at hport
  omega

/-- To hold every port takes as many live resources as there are ports. -/
theorem Tally.exists_free (ht : h.Tally standing) (hr : h.Registered) (like : NetAddress)
    (hl : h.live.length < portCount) : ∃ q, Handed q ∧ h.isFree (like.withPort q) = true := by
  by_contra hnone
  have hheld : everyPort like ⊆ standing.filterMap Opening.address := by
    intro a ha
    obtain ⟨i, hi, rfl⟩ := List.mem_map.mp ha
    have hhanded : Handed (UInt16.ofNat (49152 + i)) := by
      unfold Handed
      rw [toNat_ofNat_handed (List.mem_range.mp hi)]
      omega
    have htaken : ¬ h.isFree (like.withPort (UInt16.ofNat (49152 + i))) = true :=
      fun hfree => hnone ⟨_, hhanded, hfree⟩
    rw [ht.isFree_iff hr] at htaken
    obtain ⟨x, hx⟩ := not_forall_not.mp htaken
    exact List.mem_filterMap.mpr ⟨_, (ht.stands _).mpr hx, rfl⟩
  have hcount : (everyPort like).length = portCount := by
    rw [everyPort, List.length_map, List.length_range]
  have hle := (List.subperm_of_subset (nodup_everyPort like) hheld).length_le
  have hsome := List.length_filterMap_le Opening.address standing
  have hlive : standing.length = h.live.length := ht.live.length_eq
  omega

/-! ### Answers -/

/-- In every state that a host comes to, for every request that asks for any port. The search ends
just where some port is at no open listener and no open datagram port, which is so while fewer
resources are live than there are ports. A request that is turned down at once is answered. Any
other one is answered with the address that the search ends at, or not at all if it does not end. -/
theorem port_search_ends_iff (earlier : List HostAct) (r : Request) (like : NetAddress)
    (ha : r.AsksPort like) :
    let h := acts {} earlier
    ((∃ q, Finds h like h.nextPort q) ↔
      ∃ q, Handed q ∧ ∀ x, ¬ h.Stands ⟨x, some (like.withPort q)⟩) ∧
    (h.live.length < portCount → ∃ q, Finds h like h.nextPort q) ∧
    (h.TurnsDown r → ∃ f, h.poll? r = some (.error f, h)) ∧
    (¬ h.TurnsDown r →
      (∀ q, Finds h like h.nextPort q →
        ∃ c g, h.poll? r = some (.ok c, g) ∧ r.got? c = some (like.withPort q)) ∧
      ((∀ q, ¬ Finds h like h.nextPort q) → h.poll? r = none)) := by
  intro h
  have hp : Handed h.nextPort := handed_acts handed_start earlier
  obtain ⟨standing, ht⟩ : ∃ standing, h.Tally standing := exists_tally earlier
  have hr : h.Registered := registered_start.acts earlier
  have hends : (∃ q, Finds h like h.nextPort q) ↔
      ∃ q, Handed q ∧ ∀ x, ¬ h.Stands ⟨x, some (like.withPort q)⟩ := by
    simp only [exists_finds_iff hp, ht.isFree_iff hr]
  refine ⟨hends, fun hl => ?_, poll?_of_turnsDown, fun hd => ⟨fun q hf => ?_, fun hnot => ?_⟩⟩
  · exact (exists_finds_iff hp).mpr (ht.exists_free hr like hl)
  · obtain ⟨c, g, hpoll, hgot, -⟩ := poll?_of_finds hp ha hd (ht.reaches r) hf
    exact ⟨c, g, hpoll, hgot⟩
  · exact poll?_of_not_finds hp ha hd hnot

theorem any_port_past_taken_one :
    let r : Request := .bindPort ⟨.v4 .loopback, 0⟩
    let h := acts {} [.request (.listen .tcp ⟨.v4 .loopback, 49152⟩)]
    r.AsksPort ⟨.v4 .loopback, 0⟩ ∧ h.live.length < portCount ∧ ¬ h.TurnsDown r ∧
      ∃ q c g, Finds h ⟨.v4 .loopback, 0⟩ h.nextPort q ∧ h.poll? r = some (.ok c, g) ∧
        r.got? c = some ⟨.v4 .loopback, q⟩ := by
  intro r h
  have ha : r.AsksPort ⟨.v4 .loopback, 0⟩ := ⟨rfl, rfl⟩
  have hlive : h.live.length < portCount := by decide
  have hd : ¬ h.TurnsDown r := fun hd => hd
  obtain ⟨-, hroom, -, hanswer⟩ := port_search_ends_iff _ r _ ha
  obtain ⟨q, hf⟩ := hroom hlive
  obtain ⟨c, g, hpoll, hgot⟩ := (hanswer hd).1 q hf
  exact ⟨ha, hlive, hd, q, c, g, hf, hpoll, hgot⟩

/-! ### Every port taken -/

/-- The first `n` ports at the address are taken, and the others are free. -/
structure Filled (h : InProcessHost) (like : NetAddress) (n : Nat) : Prop where
  next : n < portCount → h.nextPort.toNat = 49152 + n
  free_iff : ∀ q, Handed q → (h.isFree (like.withPort q) = true ↔ 49152 + n ≤ q.toNat)

theorem filled_start (like : NetAddress) : Filled {} like 0 :=
  ⟨fun _ => rfl, fun _ hq => ⟨fun _ => hq, fun _ => rfl⟩⟩

theorem isFree_insert_bound {id : Nat} (hl : h'.listening = h.listening)
    (hb : h'.bound = h.bound.insert b id) (a : NetAddress) :
    h'.isFree a = true ↔ a ≠ b ∧ h.isFree a = true := by
  simp only [isFree, hl, hb, Assoc.contains, Assoc.find?_insert]
  split
  · next he => simp [he]
  · next hne => simp [hne]

/-- A datagram dial takes the next port. -/
theorem Filled.dial {peer : NetAddress} {n : Nat} (hf : Filled h peer.loopback n)
    (hn : n < portCount) :
    Filled (h.act (.request (.dial .udp none peer))) peer.loopback (n + 1) := by
  have hnext := hf.next hn
  have hp : Handed h.nextPort := by
    unfold Handed
    omega
  have hfree := (hf.free_iff h.nextPort hp).mpr (by omega)
  obtain ⟨c, g, hpoll, hgot, hafter⟩ :=
    poll?_of_finds (r := .dial .udp none peer) hp ⟨rfl, rfl⟩ (fun hd => hd) trivial (.free hfree)
  rw [act_request hpoll]
  rcases dialDatagram_eq_some hpoll with ⟨f, next, he, -⟩ | ⟨b, next, hc, -, hg, -⟩
  · cases he
  · cases hc
    have hb : b = peer.loopback.withPort h.nextPort := Option.some.inj hgot
    have hlistening : g.listening = h.listening := by rw [hg]
    have hbound : g.bound = h.bound.insert b h.nextId := by rw [hg]
    refine ⟨fun hlt => ?_, fun q hq => ?_⟩
    · unfold portCount at hlt
      rw [hafter, toNat_portAfter, if_neg (by omega)]
      omega
    · rw [isFree_insert_bound hlistening hbound, hf.free_iff q hq, hb]
      have hsame : peer.loopback.withPort q = peer.loopback.withPort h.nextPort ↔
          q.toNat = h.nextPort.toNat := by
        simp [NetAddress.withPort, UInt16.toNat_inj]
      rw [ne_eq, hsame]
      omega

theorem filled_dials (peer : NetAddress) {n : Nat} (hn : n ≤ portCount) :
    Filled (acts {} (List.replicate n (.request (.dial .udp none peer)))) peer.loopback n := by
  induction n with
  | zero => exact filled_start _
  | succ n ih =>
    have hdial := (ih (by omega)).dial (by omega)
    rwa [List.replicate_succ', acts, List.foldl_append]

theorem Filled.not_finds {like : NetAddress} {p : UInt16} (hf : Filled h like portCount)
    (hp : Handed p) : ¬ Finds h like p q := by
  intro hfound
  have hq := (hf.free_iff q (hfound.handed hp)).mp hfound.ends_free
  have hlast := q.toNat_lt
  unfold portCount at hq
  omega

/-- When each port has been given to a datagram dial, and none has been closed. -/
theorem no_answer_with_every_port_taken :
    let peer : NetAddress := ⟨.v4 .unspecified, 9⟩
    let any : NetAddress := ⟨.v4 .loopback, 0⟩
    let h := acts {} (List.replicate portCount (.request (.dial .udp none peer)))
    (Request.bindPort any).AsksPort any ∧ (∀ q, ¬ Finds h any h.nextPort q) ∧
      h.poll? (.bindPort any) = none ∧ h.poll? (.listen .tcp any) = none ∧
      h.poll? (.dial .udp none peer) = none := by
  intro peer any h
  have hfilled : Filled h any portCount := filled_dials peer (Nat.le_refl _)
  have hp : Handed h.nextPort := handed_acts handed_start _
  have hnot : ∀ q, ¬ Finds h any h.nextPort q := fun q => hfilled.not_finds hp
  refine ⟨⟨rfl, rfl⟩, hnot, ?_, ?_, ?_⟩
  · exact poll?_of_not_finds hp ⟨rfl, rfl⟩ (fun hd => hd) hnot
  · exact poll?_of_not_finds hp ⟨rfl, rfl⟩ (fun hd => hd) hnot
  · exact poll?_of_not_finds hp ⟨rfl, rfl⟩ (fun hd => hd) hnot

end InProcessHost

end SyscallBridge
