import SyscallBridge.Proofs.Host.AnyPort

/-!
# Picked ports

An address that the host picks is at no open listener and no open datagram port. The near sides of
streams are in no registry, so their addresses are not looked at: what keeps a picked one from being
picked again is the counter, which comes by every other port before it is back.
-/

namespace SyscallBridge.InProcessHost

open InProcess

variable {h h' : InProcessHost} {like a b : NetAddress} {c p q t : UInt16} {r : Request}

/-- The host picks `b` for a request that asks for any port. -/
def Picks (h : InProcessHost) (r : Request) (b : NetAddress) : Prop :=
  ∃ like c h', r.AsksPort like ∧ h.poll? r = some (.ok c, h') ∧ r.got? c = some b

theorem not_turnsDown_of_ok {answer : r.Answer} (hr : h.poll? r = some (.ok answer, h')) :
    ¬ h.TurnsDown r := by
  intro hd
  obtain ⟨f, hf⟩ := poll?_of_turnsDown hd
  cases hf.symm.trans hr

theorem reaches_of_ok {answer : r.Answer} (hr : h.poll? r = some (.ok answer, h')) :
    h.Reaches r := by
  unfold Reaches
  split
  · intro n hn
    have hd := hr
    simp only [poll?, dialStream, startStream?, hn, Option.bind_eq_bind,
      Option.bind_eq_some_iff] at hd
    obtain ⟨⟨started, g⟩, ⟨⟨b, h₁⟩, hsettle, hmade⟩, hdeliver⟩ := hd
    obtain ⟨⟨next, rfl⟩, -⟩ := settlePort?_eq_some hsettle
    cases hmade
    have hresult := Option.some.inj hdeliver
    unfold deliverStream at hresult
    split at hresult
    · rename_i hthere
      exact hthere
    · cases hresult
  · trivial

/-- A host whose searches start at a port that is handed out, and whose dials go to listeners that
are there. -/
structure Counting (h : InProcessHost) : Prop where
  handed : Handed h.nextPort
  tally : ∃ standing, h.Tally standing

theorem Counting.act (hc : h.Counting) (act : HostAct) : (h.act act).Counting := by
  obtain ⟨hp, standing, ht⟩ := hc
  exact ⟨handed_act hp act, ht.act act⟩

theorem Counting.acts (hc : h.Counting) (l : List HostAct) : (h.acts l).Counting := by
  induction l generalizing h with
  | nil => exact hc
  | cons act l ih => exact ih (hc.act act)

theorem counting_start : Counting {} := ⟨handed_start, [], tally_start⟩

/-- A picked address is where a search from the counter ends, and the counter goes on after it. -/
theorem Picks.finds (hk : Picks h r b) (hp : Handed h.nextPort) : ∃ like,
    r.AsksPort like ∧ Finds h like h.nextPort b.port ∧ b = like.withPort b.port ∧
      (h.act (.request r)).nextPort = portAfter b.port := by
  obtain ⟨like, answer, h', ha, hr, hb⟩ := hk
  have hd := not_turnsDown_of_ok hr
  by_cases hends : ∃ q, Finds h like h.nextPort q
  · obtain ⟨q, hf⟩ := hends
    obtain ⟨answer', g, hr', hgot, hnext⟩ := poll?_of_finds hp ha hd (reaches_of_ok hr) hf
    rw [hr] at hr'
    cases hr'
    rw [hb] at hgot
    cases hgot
    exact ⟨like, ha, hf, rfl, (congrArg nextPort (act_request hr)).trans hnext⟩
  · have hnone := poll?_of_not_finds hp ha hd (not_exists.mp hends)
    rw [hr] at hnone
    cases hnone

/-- Whatever is done, the counter stays where it is or a port has been picked. -/
theorem nextPort_act (hc : h.Counting) (act : HostAct) :
    (h.act act).nextPort = h.nextPort ∨ ∃ r b, act = .request r ∧ Picks h r b := by
  obtain ⟨hp, standing, ht⟩ := hc
  cases act with
  | request r =>
    by_cases hd : h.TurnsDown r
    · obtain ⟨f, hf⟩ := poll?_of_turnsDown hd
      exact .inl (congrArg nextPort (act_request hf))
    · refine act_request_induct (motive := fun g => g.nextPort = h.nextPort ∨ _) r (.inl rfl) ?_
      intro answer h' hr
      rcases counts_poll? hp hr with hstays | ⟨like, q, asks, found, -⟩
      · exact .inl hstays
      · obtain ⟨answer', g, hr', hgot, -⟩ := poll?_of_finds hp asks hd (ht.reaches r) found
        exact .inr ⟨r, _, rfl, _, answer', g, asks, hr', hgot⟩
  | close x => exact .inl (nextPort_close h x)
  | drop x => exact .inl (nextPort_drop h x)
  | serve url => exact .inl (nextPort_serve h url)
  | addName | log | takeLogs => exact .inl rfl

/-! ### A round of the counter -/

/-- The search does not pass by a port that is free. -/
theorem Finds.steps_le (hf : Finds h like c q) (hc : Handed c) (hp : Handed p)
    (hfree : h.isFree (like.withPort p) = true) : steps c q ≤ steps c p := by
  induction hf with
  | free =>
    rw [steps_self]
    exact Nat.zero_le _
  | taken passed later ih =>
    rename_i c q
    have hle := ih (handed_portAfter hc)
    have hnp : c ≠ p := by
      rintro rfl
      rw [passed] at hfree
      cases hfree
    have hnq : c ≠ q := by
      rintro rfl
      rw [later.ends_free] at passed
      cases passed
    have hp' := steps_portAfter hc hp hnp
    have hq' := steps_portAfter hc (later.handed (handed_portAfter hc)) hnq
    omega

/-- On the way from `c` to `p` there is `q`. -/
theorem steps_through (hc : Handed c) (hq : Handed q) (hp : Handed p)
    (hlt : steps c q < steps c p) : steps c p = steps c q + 1 + steps (portAfter q) p := by
  have hclast := c.toNat_lt
  have hplast := p.toNat_lt
  have hqlast := q.toNat_lt
  unfold Handed at hc hq hp
  unfold steps portCount at *
  rw [toNat_portAfter]
  split <;> omega

/-- A port is furthest from the one after it. -/
theorem steps_portAfter_self (t : UInt16) : steps (portAfter t) t + 1 = portCount := by
  have hlast := t.toNat_lt
  unfold steps portCount
  rw [toNat_portAfter]
  split <;> omega

theorem steps_portAfter_lt (ht : Handed t) (hp : Handed p) (hne : p ≠ t) :
    steps (portAfter t) p < steps (portAfter t) t := by
  have hfurthest := steps_portAfter_self t
  have hlt := steps_lt (portAfter t) p
  have hdiffer := steps_ne (handed_portAfter ht) hp ht hne
  omega

/-- The pick of `b` comes by the port `p`: takes it, or passes it by as taken. -/
def ComesBy (h : InProcessHost) (b : NetAddress) (p : UInt16) : Prop :=
  b.port = p ∨ h.isFree (b.withPort p) = false

theorem Picks.steps_lt_of_missed (hk : Picks h r b) (hc : Handed h.nextPort) (hp : Handed p)
    (hmissed : ¬ ComesBy h b p) :
    Handed b.port ∧ steps h.nextPort b.port < steps h.nextPort p := by
  obtain ⟨hne, htaken⟩ := not_or.mp hmissed
  obtain ⟨like, -, hf, hb, -⟩ := hk.finds hc
  have hq : Handed b.port := hf.handed hc
  rw [hb, Bool.not_eq_false] at htaken
  have hle := hf.steps_le hc hp htaken
  have hdiffer := steps_ne hc hq hp hne
  exact ⟨hq, by omega⟩

/-- As long as no pick comes by `p`, the counter has `p` before it and `t` behind that. -/
theorem ahead_act (hc : h.Counting) (hp : Handed p) (ht : Handed t) {act : HostAct}
    (hahead : steps h.nextPort p < steps h.nextPort t)
    (hmissed : ∀ r b, act = .request r → Picks h r b → ¬ ComesBy h b p) :
    steps (h.act act).nextPort p < steps (h.act act).nextPort t := by
  rcases nextPort_act hc act with hstays | ⟨r, b, rfl, hk⟩
  · rw [hstays]
    exact hahead
  · obtain ⟨hq, hlt⟩ := hk.steps_lt_of_missed hc.handed hp (hmissed r b rfl hk)
    obtain ⟨_, -, -, -, hnext⟩ := hk.finds hc.handed
    have hthroughp := steps_through hc.handed hq hp hlt
    have hthrought := steps_through hc.handed hq ht (by omega)
    rw [hnext]
    omega

theorem ahead_acts (hc : h.Counting) (hp : Handed p) (ht : Handed t) (l : List HostAct)
    (hahead : steps h.nextPort p < steps h.nextPort t)
    (hmissed : ∀ front r back b, l = front ++ .request r :: back → Picks (h.acts front) r b →
      ¬ ComesBy (h.acts front) b p) :
    steps (h.acts l).nextPort p < steps (h.acts l).nextPort t := by
  induction l generalizing h with
  | nil => exact hahead
  | cons act l ih =>
    have hfirst : steps (h.act act).nextPort p < steps (h.act act).nextPort t := by
      apply ahead_act hc hp ht hahead
      rintro r b rfl hk
      exact hmissed [] r l b rfl hk
    apply ih (hc.act act) hfirst
    rintro front r back b rfl hk
    exact hmissed (act :: front) r back b rfl hk

/-- Between two picks of one port, some pick comes by each other port. -/
theorem comes_by_between (hc : h.Counting) {first : Request} {between : List HostAct}
    (hfirst : Picks h first a) (hk : Picks ((h.act (.request first)).acts between) r b)
    (hsame : a.port = b.port) (hp : Handed p) (hne : p ≠ b.port) :
    ∃ front s back d, between ++ [.request r] = front ++ .request s :: back ∧
      let g := (h.act (.request first)).acts front
      Picks g s d ∧ ComesBy g d p := by
  by_contra hnot
  have hmissed : ∀ front s back d, between ++ [.request r] = front ++ .request s :: back →
      Picks ((h.act (.request first)).acts front) s d →
      ¬ ComesBy ((h.act (.request first)).acts front) d p :=
    fun front s back d heq hs hby => hnot ⟨front, s, back, d, heq, hs, hby⟩
  obtain ⟨_, -, hf, -, hnext⟩ := hfirst.finds hc.handed
  have ht : Handed b.port := hsame ▸ hf.handed hc.handed
  have hc' := hc.act (.request first)
  have hstart : steps (h.act (.request first)).nextPort p <
      steps (h.act (.request first)).nextPort b.port := by
    rw [hnext, hsame]
    exact steps_portAfter_lt ht hp hne
  have hend : steps ((h.act (.request first)).acts between).nextPort p <
      steps ((h.act (.request first)).acts between).nextPort b.port := by
    apply ahead_acts hc' hp ht between hstart
    intro front s back d heq
    exact hmissed front s (back ++ [.request r]) d (by rw [heq, List.append_assoc]; rfl)
  -- the last pick would have to pass by `p`, which it does not come by
  have hlast := hmissed between r [] b rfl hk
  have hlt := (hk.steps_lt_of_missed (hc'.acts between).handed hp hlast).2
  omega

/-! ### What is picked -/

/-- In every state that a host comes to, an address that it picks for a request for any port is the
address asked for, with a port from 49152 on, and no open listener and no open datagram port has it.
The near side of an earlier dial can have it, but if that was picked as well, then each other port
has been picked since or was found at an open listener or datagram port. -/
theorem picked_address_unused (earlier : List HostAct) (r : Request) (b : NetAddress)
    (hk : Picks (acts {} earlier) r b) :
    let h := acts {} earlier
    (∃ like, r.AsksPort like ∧ b = like.withPort b.port) ∧
    (49152 ≤ b.port.toNat ∧ b.port.toNat ≤ 65535) ∧
    (∀ x, ¬ h.Stands ⟨x, some b⟩) ∧
    ∀ before first between a, earlier = before ++ .request first :: between →
      Picks (acts {} before) first a → a.port = b.port → ∀ p, Handed p → p ≠ b.port →
        ∃ front s back d, between ++ [.request r] = front ++ .request s :: back ∧
          let g := acts {} (before ++ .request first :: front)
          Picks g s d ∧ (d.port = p ∨ ∃ x, g.Stands ⟨x, some (d.withPort p)⟩) := by
  intro h
  have hc : Handed h.nextPort := handed_acts handed_start earlier
  obtain ⟨like, ha, hf, hb, -⟩ := hk.finds hc
  have hlast := b.port.toNat_lt
  refine ⟨⟨like, ha, hb⟩, ⟨hf.handed hc, by omega⟩, ?_, ?_⟩
  · obtain ⟨standing, ht⟩ := exists_tally earlier
    rw [← ht.isFree_iff (registered_start.acts earlier), hb]
    exact hf.ends_free
  · intro before first between a hsplit hfirst hsame p hp hne
    have hacts (front : List HostAct) : acts {} (before ++ .request first :: front) =
        ((acts {} before).act (.request first)).acts front := List.foldl_append
    rw [hsplit, hacts] at hk
    obtain ⟨front, s, back, d, heq, hs, hby⟩ :=
      comes_by_between (counting_start.acts before) hfirst hk hsame hp hne
    refine ⟨front, s, back, d, heq, ?_⟩
    intro g
    have hg : g = ((acts {} before).act (.request first)).acts front := hacts front
    refine ⟨hg ▸ hs, hby.imp_right fun htaken => ?_⟩
    obtain ⟨standing, ht⟩ := exists_tally (before ++ .request first :: front)
    rw [← hg, ← Bool.not_eq_true, ht.isFree_iff (registered_start.acts _)] at htaken
    exact not_forall_not.mp htaken

theorem picked_address_unused_beside_listener :
    let own : NetAddress := ⟨.v4 .loopback, 49153⟩
    let earlier : List HostAct := [.request (.listen .tcp ⟨.v4 .loopback, 49152⟩)]
    let r : Request := .bindPort ⟨.v4 .loopback, 0⟩
    Picks (acts {} earlier) r own ∧ ∀ x, ¬ (acts {} earlier).Stands ⟨x, some own⟩ := by
  intro own earlier r
  have hk : Picks (acts {} earlier) r own := ⟨_, _, _, ⟨rfl, rfl⟩, rfl, rfl⟩
  exact ⟨hk, (picked_address_unused earlier r own hk).2.2.1⟩

/-- The near side of a stream is at an address that is picked for another one. -/
theorem client_address_picked_again :
    let home : NetAddress := ⟨.v4 .loopback, 7000⟩
    let own : NetAddress := ⟨.v4 .loopback, 49152⟩
    let first : Request := .dial .tcp (some own) home
    let h₀ := acts {} [.request (.listen .tcp home)]
    let h := h₀.act (.request first)
    (h₀.poll? first).map Prod.fst = some (.ok ⟨.tcp, 1, own, home⟩) ∧
      h.Stands ⟨.stream 1, none⟩ ∧ Picks h (.dial .tcp none home) own := by
  intro home own first h₀ h
  exact ⟨rfl, ⟨_, rfl⟩, _, _, _, ⟨rfl, rfl⟩, rfl, rfl⟩

end SyscallBridge.InProcessHost
