import SyscallBridge.Proofs.Host.Run

/-!
# The search for a free port

The search goes from port to port, and from the last one back to the first that is handed out, with
no bound of its own: `Finds` is that search. Within a round it comes by every port that is handed
out, so it ends where one of them is free, and in one round. The counter that it starts from is
always a port that is handed out.
-/

namespace SyscallBridge

namespace Request

/-- Any port at the address of `like` is asked for. -/
structure AsksPort (r : Request) (like : NetAddress) : Prop where
  own : r.own? = some like
  any : like.port = 0

end Request

namespace InProcessHost

open InProcess

variable {h h' : InProcessHost} {like a b : NetAddress} {p q : UInt16}

/-- The search from `p` on ends at `q`. -/
inductive Finds (h : InProcessHost) (like : NetAddress) : UInt16 → UInt16 → Prop
  | free {p : UInt16} (found : h.isFree (like.withPort p) = true) : Finds h like p p
  | taken {p q : UInt16} (passed : h.isFree (like.withPort p) = false)
    (later : Finds h like (portAfter p) q) : Finds h like p q

/-! ### One round -/

/-- The ports that are handed out. -/
def Handed (p : UInt16) : Prop := 49152 ≤ p.toNat

/-- How many ports there are in a round. -/
def portCount : Nat := 16384

theorem toNat_portAfter (p : UInt16) :
    (portAfter p).toNat = if p.toNat = 65535 then 49152 else p.toNat + 1 := by
  unfold portAfter
  by_cases hp : p = 65535
  · rw [if_pos hp, hp]
    rfl
  · have hne : p.toNat ≠ 65535 := fun he => hp (UInt16.toNat_inj.mp he)
    have hlt := p.toNat_lt
    rw [if_neg hp, if_neg hne, UInt16.toNat_add]
    have hone : (1 : UInt16).toNat = 1 := rfl
    omega

theorem handed_portAfter (hp : Handed p) : Handed (portAfter p) := by
  unfold Handed at *
  rw [toNat_portAfter]
  split <;> omega

/-- How many steps it is from `p` to `q`. -/
def steps (p q : UInt16) : Nat := (q.toNat + portCount - p.toNat) % portCount

theorem steps_lt (p q : UInt16) : steps p q < portCount := by
  unfold steps portCount
  omega

theorem steps_self (p : UInt16) : steps p p = 0 := by
  unfold steps portCount
  omega

theorem steps_ne {r : UInt16} (hp : Handed p) (hq : Handed q) (hr : Handed r) (hne : q ≠ r) :
    steps p q ≠ steps p r := by
  have hdiffer : q.toNat ≠ r.toNat := fun he => hne (UInt16.toNat_inj.mp he)
  have hplast := p.toNat_lt
  have hqlast := q.toNat_lt
  have hrlast := r.toNat_lt
  unfold Handed at hp hq hr
  unfold steps portCount
  omega

theorem steps_portAfter (hp : Handed p) (hq : Handed q) (hne : p ≠ q) :
    steps p q = steps (portAfter p) q + 1 := by
  have hplast := p.toNat_lt
  have hqlast := q.toNat_lt
  have hdiffer : p.toNat ≠ q.toNat := fun he => hne (UInt16.toNat_inj.mp he)
  unfold Handed at hp hq
  unfold steps portCount
  rw [toNat_portAfter]
  split <;> omega

/-! ### Where the search ends -/

theorem Finds.ends_free (hf : Finds h like p q) : h.isFree (like.withPort q) = true := by
  induction hf with
  | free found => exact found
  | taken _ _ ih => exact ih

theorem Finds.handed (hf : Finds h like p q) (hp : Handed p) : Handed q := by
  induction hf with
  | free => exact hp
  | taken _ _ ih => exact ih (handed_portAfter hp)

theorem Finds.unique {r : UInt16} (hf : Finds h like p q) (hr : Finds h like p r) : q = r := by
  induction hf with
  | free found =>
    cases hr with
    | free => rfl
    | taken passed =>
      rw [found] at passed
      cases passed
  | taken passed _ ih =>
    cases hr with
    | free found =>
      rw [found] at passed
      cases passed
    | taken _ later => exact ih later

theorem finds_of_searchPort {count : Nat} (hs : h.searchPort like count p = some q) :
    Finds h like p q := by
  induction count generalizing p with
  | zero => cases hs
  | succ count ih =>
    rw [searchPort] at hs
    split at hs
    · next found =>
      cases hs
      exact .free found
    · next hnot => exact .taken (Bool.of_not_eq_true hnot) (ih hs)

/-- A free port is not passed by. -/
theorem exists_searchPort {count : Nat} (hp : Handed p) (hq : Handed q)
    (hfree : h.isFree (like.withPort q) = true) (hcount : steps p q < count) :
    ∃ r, h.searchPort like count p = some r := by
  induction count generalizing p with
  | zero => omega
  | succ count ih =>
    rw [searchPort]
    by_cases hhere : h.isFree (like.withPort p) = true
    · exact ⟨p, if_pos hhere⟩
    · have hne : p ≠ q := by
        rintro rfl
        exact hhere hfree
      have hstep := steps_portAfter hp hq hne
      rw [if_neg hhere]
      exact ih (handed_portAfter hp) (by omega)

/-- The search ends when there is a free port, and one round is enough then. -/
theorem exists_finds_iff (hp : Handed p) :
    (∃ q, Finds h like p q) ↔ ∃ q, Handed q ∧ h.isFree (like.withPort q) = true := by
  constructor
  · rintro ⟨q, hf⟩
    exact ⟨q, hf.handed hp, hf.ends_free⟩
  · rintro ⟨q, hq, hfree⟩
    obtain ⟨r, hr⟩ := exists_searchPort hp hq hfree (steps_lt _ _)
    exact ⟨r, finds_of_searchPort hr⟩

theorem searchPort_eq_some_iff (hp : Handed p) :
    h.searchPort like portCount p = some q ↔ Finds h like p q := by
  constructor
  · exact finds_of_searchPort
  · intro hf
    have hq := hf.handed hp
    obtain ⟨r, hr⟩ := exists_searchPort hp hq hf.ends_free (steps_lt _ _)
    rw [hr, hf.unique (finds_of_searchPort hr)]

theorem anyPort?_eq_some_iff (hp : Handed h.nextPort) : h.anyPort? like = some (b, h') ↔
    ∃ q, Finds h like h.nextPort q ∧ b = like.withPort q ∧
      h' = { h with nextPort := portAfter q } := by
  have hcount : 65536 - firstFreePort.toNat = portCount := rfl
  rw [anyPort?, hcount, Option.map_eq_some_iff]
  constructor
  · rintro ⟨q, hq, heq⟩
    cases heq
    exact ⟨q, (searchPort_eq_some_iff hp).mp hq, rfl, rfl⟩
  · rintro ⟨q, hf, rfl, rfl⟩
    exact ⟨q, (searchPort_eq_some_iff hp).mpr hf, rfl⟩

/-! ### The counter -/

/-- The counter stays where it is, or goes on after the port that a search ends at. -/
def Counts (h : InProcessHost) (r : Request) (next : UInt16) : Prop :=
  next = h.nextPort ∨
    ∃ like q, r.AsksPort like ∧ Finds h like h.nextPort q ∧ next = portAfter q

theorem Counts.handed {r : Request} (hc : Counts h r p) (hp : Handed h.nextPort) : Handed p := by
  rcases hc with rfl | ⟨like, q, -, hf, rfl⟩
  · exact hp
  · exact handed_portAfter (hf.handed hp)

theorem counts_settlePort? {r : Request} (hp : Handed h.nextPort) (ho : r.own? = some a)
    (hs : h.settlePort? a = some (b, h')) : Counts h r h'.nextPort := by
  unfold settlePort? at hs
  split at hs
  · next hany =>
    obtain ⟨q, hf, -, rfl⟩ := (anyPort?_eq_some_iff hp).mp hs
    exact .inr ⟨a, q, ⟨ho, hany⟩, hf, rfl⟩
  · cases hs
    exact .inl rfl

theorem nextPort_openPort (h : InProcessHost) (own : NetAddress) :
    (h.openPort own).2.nextPort = h.nextPort := by
  rcases openPort_cases h own with ⟨f, hf⟩ | ⟨-, hok⟩
  · rw [hf]
  · rw [hok]

theorem nextPort_close (h : InProcessHost) (x : Resource) : (h.close x).nextPort = h.nextPort := by
  cases x with
  | listener id =>
    simp only [InProcessHost.close, closeListener]
    split
    · rfl
    · split <;> rfl
  | stream id =>
    simp only [InProcessHost.close, closeStream]
    split
    · rfl
    · split <;> rfl
  | port id =>
    simp only [InProcessHost.close, closePort]
    split
    · rfl
    · split <;> rfl
  | channel id =>
    simp only [InProcessHost.close, closeChannel]
    split
    · rfl
    · split <;> rfl
  | server => rfl

theorem nextPort_discard (h : InProcessHost) (x : Resource) :
    (h.discard x).nextPort = h.nextPort := by
  have hforget : (h.discard x).nextPort = (h.close x).nextPort := by cases x <;> rfl
  rw [hforget, nextPort_close]

theorem nextPort_drop (h : InProcessHost) (x : Resource) : (h.drop x).nextPort = h.nextPort := by
  refine drop_induct (motive := fun g => g.nextPort = h.nextPort) x (nextPort_discard h x)
    fun y _ g hg => ?_
  rw [nextPort_discard, hg]

theorem nextPort_dropStream (h : InProcessHost) (id : Nat) :
    (h.dropStream id).nextPort = h.nextPort := nextPort_discard h (.stream id)

theorem nextPort_deliverStream (h : InProcessHost) (d : StreamDial) :
    (h.deliverStream d).2.nextPort = h.nextPort := by
  rcases deliverStream_cases h d with ⟨-, hok⟩ | ⟨-, hrefused⟩
  · rw [hok]
  · rw [hrefused, nextPort_dropStream, nextPort_dropStream]

/-- Only a search moves the counter. -/
theorem counts_poll? {r : Request} {answer : Except HostFailure r.Answer}
    (hp : Handed h.nextPort) (hr : h.poll? r = some (answer, h')) : Counts h r h'.nextPort := by
  cases ho : r.own? with
  | none => exact .inl ((served_poll? hr).nextPort ho)
  | some a =>
    cases r with
    | listen protocol a =>
      cases protocol with
      | udp =>
        cases hr
        exact .inl rfl
      | tcp =>
        change h.listen .tcp a = _ at hr
        simp only [listen, Option.bind_eq_bind, Option.bind_eq_some_iff] at hr
        obtain ⟨⟨b, h₁⟩, hsettle, hrest⟩ := hr
        have hsettled : Counts h (.listen .tcp a) h₁.nextPort := counts_settlePort? hp rfl hsettle
        dsimp only at hrest
        split at hrest <;> cases hrest <;> exact hsettled
    | dial protocol own peer =>
      cases protocol with
      | tcp =>
        change h.dialStream own peer = _ at hr
        simp only [dialStream, startStream?, Option.bind_eq_bind, Option.bind_eq_some_iff] at hr
        obtain ⟨⟨started, g⟩, hstart, hrest⟩ := hr
        split at hstart
        · cases hstart
          cases hrest
          exact .inl rfl
        · simp only [Option.bind_eq_some_iff] at hstart
          obtain ⟨⟨b, h₁⟩, hsettle, hmade⟩ := hstart
          have hsettled : Counts h (.dial .tcp own peer) h₁.nextPort :=
            counts_settlePort? hp rfl hsettle
          cases hmade
          have hdelivered := congrArg (fun result => result.2.nextPort) (Option.some.inj hrest)
          dsimp only at hdelivered
          rw [← hdelivered, nextPort_deliverStream]
          exact hsettled
      | udp =>
        change h.dialDatagram own peer = _ at hr
        simp only [dialDatagram, Option.bind_eq_bind, Option.bind_eq_some_iff] at hr
        obtain ⟨⟨b, h₁⟩, hsettle, hrest⟩ := hr
        cases hrest
        rw [nextPort_openPort]
        exact counts_settlePort? hp rfl hsettle
    | bindPort a =>
      change h.bindPort a = _ at hr
      simp only [bindPort, Option.bind_eq_bind, Option.bind_eq_some_iff] at hr
      obtain ⟨⟨b, h₁⟩, hsettle, hrest⟩ := hr
      cases hrest
      rw [nextPort_openPort]
      exact counts_settlePort? hp rfl hsettle
    | resolve | dialChannel | accept | read | write | sendTo | receiveFrom | sendMessage
    | receiveMessage | acceptChannel => cases ho

theorem nextPort_serve (h : InProcessHost) (url : String) : (h.serve url).2.nextPort = h.nextPort := by
  unfold serve
  split <;> rfl

theorem handed_act (hp : Handed h.nextPort) (act : HostAct) : Handed (h.act act).nextPort := by
  cases act with
  | request r =>
    exact act_request_induct (motive := fun g => Handed g.nextPort) r hp
      fun _ _ hr => (counts_poll? hp hr).handed hp
  | close x =>
    change Handed (h.close x).nextPort
    rw [nextPort_close]
    exact hp
  | drop x =>
    change Handed (h.drop x).nextPort
    rw [nextPort_drop]
    exact hp
  | serve url =>
    change Handed (h.serve url).2.nextPort
    rw [nextPort_serve]
    exact hp
  | addName | log | takeLogs => exact hp

theorem handed_acts (hp : Handed h.nextPort) (l : List HostAct) : Handed (h.acts l).nextPort := by
  induction l generalizing h with
  | nil => exact hp
  | cons act l ih => exact ih (handed_act hp act)

theorem handed_start : Handed ({} : InProcessHost).nextPort := by
  unfold Handed
  decide

end InProcessHost

end SyscallBridge
