import Mathlib.Data.List.Nodup
import SyscallBridge.Proofs.Host.ClosedResources
import SyscallBridge.Proofs.Host.Openings
import SyscallBridge.Proofs.Host.Ports

/-!
# Live resources

At any time some resources stand open. The host holds one slot for each of them and no other, and
the registries have their addresses.
-/

namespace SyscallBridge

open InProcess

/-- An open resource of this kind has this address. -/
def inUse (standing : List Opening) (k : ResourceKind) (a : NetAddress) : Bool :=
  standing.any fun o => o.resource.kind = k && o.address = some a

namespace InProcessHost

variable {h h' : InProcessHost} {x : Resource} {o : Opening} {standing : List Opening}
  {l : List HostAct}

/-- The slots that are held and the registry of listeners are those of what stands open. -/
structure Tally (h : InProcessHost) (standing : List Opening) : Prop where
  live : List.Forall₂ h.Holds standing h.live
  nodup : (standing.map Opening.number).Nodup
  numbered : ∀ o ∈ standing, o.number < h.nextId
  stands : ∀ o, o ∈ standing ↔ h.Stands o
  listening : ∀ a id, h.listening.find? a = some id ↔ ⟨.listener id, some a⟩ ∈ standing

theorem tally_start_of_rule (rule : SlotRule) : Tally { slots := { rule } } [] where
  live := .nil
  nodup := List.nodup_nil
  numbered := fun o ho => nomatch ho
  stands := fun o => by
    have hnone : entryOf { slots := { rule } } o.resource = none := by cases o.resource <;> rfl
    simp [Stands, Holds, hnone]
  listening := fun a id => by simp

theorem tally_start : Tally {} [] := tally_start_of_rule .lastFreed

/-- What is told of as before holds the slots it held. -/
theorem forall₂_holds {slots : List Nat} (hl : List.Forall₂ h.Holds standing slots)
    (hsame : ∀ o ∈ standing, h'.entryOf o.resource = h.entryOf o.resource) :
    List.Forall₂ h'.Holds standing slots :=
  ((List.forall₂_and_left _ _).2 ⟨hsame, hl⟩).imp fun _ _ ⟨heq, hholds⟩ => heq.trans hholds

theorem Tally.not_made (ht : h.Tally standing) {made : List Opening} (hb : Brings h made h')
    (ho : o ∈ standing) : o.resource ∉ made.map Opening.resource := by
  intro hmade
  obtain ⟨new, hnew, heq⟩ := List.mem_map.1 hmade
  have hold := ht.numbered o ho
  have hsame : new.number = o.number := congrArg Resource.number heq
  have := (hb.numbered new hnew).1
  omega

theorem Brings.entryOf_old {made : List Opening} (hb : Brings h made h') (hx : x.number < h.nextId)
    (hmade : x ∉ made.map Opening.resource) : h'.entryOf x = h.entryOf x :=
  (hb.others x hmade).resolve_right fun hnew => Nat.not_le_of_lt hx hnew.1

theorem Tally.brings (ht : h.Tally standing) {made : List Opening} (hb : Brings h made h') :
    h'.Tally (made ++ standing) where
  live := by
    obtain ⟨slots, hlive, hslots⟩ := hb.live
    rw [hlive]
    refine List.rel_append hslots (forall₂_holds ht.live fun o ho => ?_)
    exact hb.entryOf_old (ht.numbered o ho) (ht.not_made hb ho)
  nodup := by
    rw [List.map_append]
    refine List.nodup_append.2 ⟨hb.nodup, ht.nodup, ?_⟩
    · rintro n hn m hm rfl
      obtain ⟨new, hnew, rfl⟩ := List.mem_map.1 hn
      obtain ⟨old, hold, heq⟩ := List.mem_map.1 hm
      have := (hb.numbered new hnew).1
      have := ht.numbered old hold
      omega
  numbered := fun o ho => by
    rcases List.mem_append.1 ho with hnew | hold
    · exact (hb.numbered o hnew).2
    · have := ht.numbered o hold
      have := hb.nextId
      omega
  stands := fun o => by
    by_cases hmade : o.resource ∈ made.map Opening.resource
    · obtain ⟨new, hnew, heq⟩ := List.mem_map.1 hmade
      constructor
      · intro ho
        rcases List.mem_append.1 ho with ho | hold
        · exact hb.stands ho
        · exact absurd hmade (ht.not_made hb hold)
      · intro ho
        have haddress : o.address = new.address :=
          Stands.unique (x := o.resource) ho (heq ▸ hb.stands hnew)
        have hsame : o = new := by
          cases o
          cases new
          simp_all
        exact List.mem_append_left _ (hsame ▸ hnew)
    · have hnew : o ∉ made := fun ho => hmade (List.mem_map_of_mem ho)
      rw [List.mem_append, or_iff_right hnew]
      rcases hb.others _ hmade with heq | ⟨hnumber, hnone⟩
      · rw [ht.stands, Stands, Stands]
        simp only [Holds, heq]
      · -- a number that was left without a resource
        refine ⟨fun hold => absurd (ht.numbered o hold) (Nat.not_lt_of_le hnumber), ?_⟩
        rintro ⟨n, hn⟩
        cases hnone.symm.trans hn
  listening := fun a id => by rw [hb.listening, ht.listening, List.mem_append]

theorem filter_eq_self_of_not_standing (hx : ∀ a, ⟨x, a⟩ ∉ standing) :
    standing.filter (fun o => o.resource ≠ x) = standing := by
  refine List.filter_eq_self.2 fun o ho => ?_
  have hne : o.resource ≠ x := by
    rintro rfl
    exact hx o.address ho
  simpa using hne

theorem Holds.unique {n n' : Nat} {o' : Opening} (hn : h.Holds o n) (hn' : h.Holds o' n')
    (heq : o.resource = o'.resource) : n = n' := by
  have hentry : some (Entry.mk false o.address n) = some ⟨false, o'.address, n'⟩ :=
    hn.symm.trans ((congrArg h.entryOf heq).trans hn')
  exact congrArg Entry.slot (Option.some.inj hentry)

theorem Holds.mem_slots {slots : List Nat} {n : Nat} (hn : h.Holds o n)
    (hl : List.Forall₂ h.Holds standing slots) (ho : o ∈ standing) : n ∈ slots := by
  induction hl with
  | nil => cases ho
  | cons hfirst _ ih =>
    rcases List.mem_cons.1 ho with rfl | ho
    · exact hn.unique hfirst rfl ▸ List.mem_cons_self
    · exact List.mem_cons_of_mem _ (ih ho)

/-- Of what stands open only one holds the slot that is given back. -/
theorem forall₂_erase {slots : List Nat} {n : Nat} (hl : List.Forall₂ h.Holds standing slots)
    (hnodup : (standing.map Opening.number).Nodup) (hslots : slots.Nodup) (ho : o ∈ standing)
    (hn : h.Holds o n) :
    List.Forall₂ h.Holds (standing.filter fun o' => o'.resource ≠ o.resource) (slots.erase n) := by
  induction hl with
  | nil => cases ho
  | @cons first m rest slots hfirst hrest ih =>
    obtain ⟨hnew, hnodup⟩ := List.nodup_cons.1 hnodup
    obtain ⟨hfree, hslots⟩ := List.nodup_cons.1 hslots
    by_cases heq : first.resource = o.resource
    · have hothers : ∀ a, ⟨o.resource, a⟩ ∉ rest := fun a ha =>
        hnew (List.mem_map.2 ⟨_, ha, (congrArg Resource.number heq).symm⟩)
      rw [List.filter_cons_of_neg (by simpa using heq), filter_eq_self_of_not_standing hothers,
        hfirst.unique hn heq, List.erase_cons_head]
      exact hrest
    · have ho : o ∈ rest := (List.mem_cons.1 ho).resolve_left fun he => heq (he ▸ rfl)
      have hmn : m ≠ n := by
        rintro rfl
        exact hfree (hn.mem_slots hrest ho)
      rw [List.filter_cons_of_pos (by simpa using heq), List.erase_cons_tail (by simpa using hmn)]
      exact .cons hfirst (ih hnodup hslots ho)

theorem Tally.closes (ht : h.Tally standing) (x : Resource) :
    (h.close x).Tally (standing.filter fun o => o.resource ≠ x) := by
  by_cases hstands : ∃ a, ⟨x, a⟩ ∈ standing
  · obtain ⟨a, hmem⟩ := hstands
    obtain ⟨n, hholds⟩ := (ht.stands _).1 hmem
    obtain ⟨hlive, hentries, hlistening⟩ := hholds.ends
    refine ⟨?_, ?_, fun o ho => ?_, fun o => ?_, fun b id => ?_⟩
    · rw [hlive]
      refine forall₂_holds (forall₂_erase ht.live ht.nodup h.slots.nodup hmem hholds)
        fun o ho => ?_
      have hne : o.resource ≠ x := by simpa using (List.mem_filter.1 ho).2
      exact (hentries _).trans (if_neg hne)
    · exact ht.nodup.sublist (List.filter_sublist.map _)
    · rw [nextId_close]
      exact ht.numbered o (List.mem_of_mem_filter ho)
    · rw [List.mem_filter, Stands, ht.stands]
      simp only [Holds, hentries]
      by_cases ho : o.resource = x
      · simp [ho]
      · simp [ho, Stands, Holds]
    · rw [List.mem_filter]
      rcases hlistening with ⟨n, a, ho, heq⟩ | ⟨hother, heq⟩
      · cases ho
        rw [heq, Assoc.find?_erase]
        split
        · -- nobody else listens at the address that leaves the registry
          rename_i hb
          subst hb
          have hsame (hid : ⟨.listener id, some b⟩ ∈ standing) : id = n := by
            have hfind := (ht.listening b id).2 hid
            cases hfind.symm.trans ((ht.listening b n).2 hmem)
            rfl
          simp only [reduceCtorEq, false_iff, not_and]
          intro hid
          simp [hsame hid]
        · rename_i hb
          rw [ht.listening]
          refine ⟨fun hid => ⟨hid, ?_⟩, fun hboth => hboth.1⟩
          have hne : id ≠ n := by
            rintro rfl
            have haddress := Stands.unique ((ht.stands _).1 hid) ((ht.stands _).1 hmem)
            exact hb (Option.some.inj haddress)
          simpa using hne
      · have hne : Resource.listener id ≠ x := fun hx => hother id hx.symm
        rw [heq, ht.listening]
        simp [hne]
  · have hnot : ∀ a, ⟨x, a⟩ ∉ standing := fun a ha => hstands ⟨a, ha⟩
    rw [filter_eq_self_of_not_standing hnot, close_eq_self fun a => mt (ht.stands _).2 (hnot a)]
    exact ht

theorem Tally.forgets (ht : h.Tally standing) (hx : ∀ a, ⟨x, a⟩ ∉ standing) :
    (h.forget x).Tally standing where
  live := by
    have hlive : (h.forget x).live = h.live := by cases x <;> rfl
    rw [hlive]
    refine forall₂_holds ht.live fun o ho => ?_
    have hne : o.resource ≠ x := by
      rintro rfl
      exact hx o.address ho
    exact (entryOf_forget h x _).trans (if_neg hne)
  nodup := ht.nodup
  numbered := by
    rw [nextId_forget]
    exact ht.numbered
  stands := fun o => by
    rw [Stands, ht.stands]
    simp only [Holds, entryOf_forget]
    split
    · rename_i ho
      subst ho
      simpa using mt (ht.stands o).2 (hx o.address)
    · rfl
  listening := by cases x <;> exact ht.listening

theorem Tally.discards (ht : h.Tally standing) (x : Resource) :
    (h.discard x).Tally (standing.filter fun o => o.resource ≠ x) := by
  refine (ht.closes x).forgets fun a hmem => ?_
  simpa using (List.mem_filter.1 hmem).2

theorem Tally.discards_all (ht : h.Tally standing) (l : List Resource) :
    (l.foldl discard h).Tally (standing.filter fun o => o.resource ∉ l) := by
  induction l generalizing h standing with
  | nil => simpa using ht
  | cons x l ih =>
    have hrest := ih (ht.discards x)
    rw [List.filter_filter] at hrest
    simpa [Bool.and_comm] using hrest

/-- A drop leaves what is neither the resource nor in its queue. -/
theorem Tally.drops (ht : h.Tally standing) (x : Resource) :
    (h.drop x).Tally (standing.filter fun o => o.resource ∉ x :: h.queued x) := by
  have hdropped : h.drop x = (x :: h.queued x).foldl discard h := rfl
  rw [hdropped]
  exact ht.discards_all _

theorem Tally.act (ht : h.Tally standing) (a : HostAct) : ∃ standing', (h.act a).Tally standing' := by
  cases a with
  | request q =>
    exact act_request_induct (motive := fun g => ∃ standing', g.Tally standing') q ⟨standing, ht⟩
      fun answer h' hp => ⟨_, ht.brings (brings_poll? hp)⟩
  | close x => exact ⟨_, ht.closes x⟩
  | drop x => exact ⟨_, ht.drops x⟩
  | serve url => exact ⟨_, ht.brings (brings_serve h url)⟩
  | addName | log | takeLogs => exact ⟨_, ht.brings (.aside h _ _)⟩

theorem Tally.acts (ht : h.Tally standing) (l : List HostAct) :
    ∃ standing', (h.acts l).Tally standing' := by
  induction l generalizing h standing with
  | nil => exact ⟨standing, ht⟩
  | cons a l ih =>
    obtain ⟨_, hact⟩ := ht.act a
    exact ih hact

theorem exists_tally (l : List HostAct) : ∃ standing, (acts {} l).Tally standing :=
  tally_start.acts l

/-! ### Routes -/

/-- The registry of listeners has open ones only. -/
theorem Tally.stands_of_listening (ht : h.Tally standing) {n : Nat} {b : NetAddress}
    (hb : h.listening.find? b = some n) : h.Stands ⟨.listener n, some b⟩ :=
  (ht.stands _).1 ((ht.listening b n).1 hb)

/-- A dial is routed to an open listener, at the address or at its wildcard. -/
theorem Tally.stands_of_route (ht : h.Tally standing) {n : Nat} {peer : NetAddress}
    (hroute : h.listenerFor? peer = some n) :
    ∃ b, (b = peer ∨ b = peer.unspecified) ∧ h.Stands ⟨.listener n, some b⟩ := by
  rw [listenerFor?] at hroute
  cases hb : h.listening.find? peer with
  | some m =>
    rw [hb] at hroute
    cases hroute
    exact ⟨peer, Or.inl rfl, ht.stands_of_listening hb⟩
  | none =>
    rw [hb] at hroute
    exact ⟨peer.unspecified, Or.inr rfl, ht.stands_of_listening hroute⟩

theorem Tally.there_of_route (ht : h.Tally standing) {n : Nat} {peer : NetAddress}
    (hroute : h.listenerFor? peer = some n) : ∃ l, h.listeners.find? n = some l := by
  obtain ⟨b, -, _, hstands⟩ := ht.stands_of_route hroute
  obtain ⟨l, hl, -⟩ := Option.map_eq_some_iff.1 hstands
  exact ⟨l, hl⟩

theorem Tally.contains_of_route (ht : h.Tally standing) {n : Nat} {peer : NetAddress}
    (hroute : h.listenerFor? peer = some n) : h.listeners.contains n = true := by
  obtain ⟨l, hl⟩ := ht.there_of_route hroute
  rw [Assoc.contains, hl]
  rfl

/-! ### Addresses in use -/

theorem inUse_iff {k : ResourceKind} {made : Nat → Resource}
    (hk : ∀ x : Resource, x.kind = k ↔ ∃ id, x = made id) (a : NetAddress) :
    inUse standing k a = true ↔ ∃ id, ⟨made id, some a⟩ ∈ standing := by
  simp only [inUse, List.any_eq_true, Bool.and_eq_true, decide_eq_true_eq]
  constructor
  · rintro ⟨⟨x, b⟩, hmem, hkind, rfl⟩
    obtain ⟨id, rfl⟩ := (hk x).1 hkind
    exact ⟨id, hmem⟩
  · rintro ⟨id, hmem⟩
    exact ⟨_, hmem, (hk _).2 ⟨id, rfl⟩, rfl⟩

theorem openAt_iff_stands (id : Nat) (a : NetAddress) :
    h.OpenAt id a ↔ h.Stands ⟨.port id, some a⟩ := by
  simp [OpenAt, Stands, Holds, entryOf, Port.entry]

theorem Tally.bound (ht : h.Tally standing) (hr : h.Registered) (a : NetAddress) (id : Nat) :
    h.bound.find? a = some id ↔ ⟨.port id, some a⟩ ∈ standing := by
  rw [hr.bound_iff, openAt_iff_stands, ht.stands]

/-- An address is in the registry when an open resource of the kind has it. -/
theorem contains_eq_inUse {m : Assoc NetAddress Nat} {k : ResourceKind} {made : Nat → Resource}
    (hk : ∀ x : Resource, x.kind = k ↔ ∃ id, x = made id)
    (hm : ∀ a id, m.find? a = some id ↔ ⟨made id, some a⟩ ∈ standing) (a : NetAddress) :
    m.contains a = inUse standing k a := by
  rw [Bool.eq_iff_iff, inUse_iff hk, Assoc.contains, Option.isSome_iff_exists]
  simp only [hm]

theorem Tally.listening_contains (ht : h.Tally standing) (a : NetAddress) :
    h.listening.contains a = inUse standing .listener a :=
  contains_eq_inUse (fun x => by cases x <;> simp [Resource.kind]) ht.listening a

theorem Tally.bound_contains (ht : h.Tally standing) (hr : h.Registered) (a : NetAddress) :
    h.bound.contains a = inUse standing .port a :=
  contains_eq_inUse (fun x => by cases x <;> simp [Resource.kind]) (ht.bound hr) a

section Answers

variable {a : NetAddress}

theorem settlePort?_of_port (ha : a.port ≠ 0) : h.settlePort? a = some (a, h) := if_neg ha

theorem listen_answer (ha : a.port ≠ 0) : (h.poll? (.listen .tcp a)).map Prod.fst =
    some (if h.listening.contains a then .error .addressInUse else .ok ⟨h.nextId, a⟩) := by
  change (h.listen .tcp a).map Prod.fst = _
  simp only [listen, settlePort?_of_port ha, Option.bind_eq_bind, Option.bind_some]
  split <;> rfl

theorem openPort_answer (own : NetAddress) : (h.openPort own).1 =
    if h.bound.contains own then .error .addressInUse else .ok h.nextId := by
  unfold openPort
  split <;> rfl

theorem bindPort_answer (ha : a.port ≠ 0) : (h.poll? (.bindPort a)).map Prod.fst =
    some (if h.bound.contains a then .error .addressInUse else .ok ⟨h.nextId, a⟩) := by
  change (h.bindPort a).map Prod.fst = _
  have hmap : (h.bindPort a).map Prod.fst =
      some ((h.openPort a).1.map fun id => PortHandle.mk id a) := by
    simp [bindPort, settlePort?_of_port ha]
  rw [hmap, openPort_answer]
  split <;> rfl

theorem dialDatagram_answer (ha : a.port ≠ 0) (peer : NetAddress) :
    (h.poll? (.dial .udp (some a) peer)).map Prod.fst =
      some (if h.bound.contains a then .error .addressInUse
        else .ok ⟨.udp, h.nextId, a, peer⟩) := by
  change (h.dialDatagram (some a) peer).map Prod.fst = _
  have hmap : (h.dialDatagram (some a) peer).map Prod.fst =
      some ((h.openPort a).1.map fun id => ConnectionHandle.mk .udp id a peer) := by
    simp [dialDatagram, ownAddress?, settlePort?_of_port ha]
  rw [hmap, openPort_answer]
  split <;> rfl

end Answers

/-! ### Closing again -/

theorem Stands.inbox {a : Option NetAddress} (hs : h.Stands ⟨x, a⟩) :
    ∃ b, h.inbox? x = some b ∧ b.closed = false := by
  obtain ⟨n, hn⟩ := hs
  have hentry : h.entryOf x = some ⟨false, a, n⟩ := hn
  cases x with
  | listener id =>
    obtain ⟨l, hl, he⟩ := Option.map_eq_some_iff.1 hentry
    exact ⟨l.inbox, congrArg (Option.map Listener.inbox) hl, congrArg Entry.closed he⟩
  | stream id =>
    obtain ⟨s, hs, he⟩ := Option.map_eq_some_iff.1 hentry
    exact ⟨s.inbox, congrArg (Option.map Stream.inbox) hs, congrArg Entry.closed he⟩
  | port id =>
    obtain ⟨p, hp, he⟩ := Option.map_eq_some_iff.1 hentry
    exact ⟨p.inbox, congrArg (Option.map Port.inbox) hp, congrArg Entry.closed he⟩
  | channel id =>
    obtain ⟨c, hc, he⟩ := Option.map_eq_some_iff.1 hentry
    exact ⟨c.inbox, congrArg (Option.map Channel.inbox) hc, congrArg Entry.closed he⟩
  | server id => cases hentry

theorem Shut.not_stands (hs : Shut x h) {a : Option NetAddress} : ¬ h.Stands ⟨x, a⟩ := by
  intro hstands
  obtain ⟨b, hb, hopen⟩ := hstands.inbox
  rw [hs.closed b hb] at hopen
  cases hopen

theorem Shut.close_eq_self (hs : Shut x h) : h.close x = h :=
  InProcessHost.close_eq_self fun _ => hs.not_stands

theorem shut_close (hserver : ∀ id, x ≠ .server id) (hx : x.number < h.nextId) :
    Shut x (h.close x) := by
  refine ⟨(nextId_close h x).symm ▸ hx, fun b hb => ?_⟩
  rw [inbox?_close hserver, if_pos rfl] at hb
  obtain ⟨b, -, rfl⟩ := Option.map_eq_some_iff.1 hb
  exact b.shut_closed

theorem shut_after (hserver : ∀ id, x ≠ .server id) (hx : x.number < h.nextId) {a : HostAct}
    (ha : a = .close x ∨ a = .drop x) : Shut x (h.act a) := by
  rcases ha with rfl | rfl
  · exact shut_close hserver hx
  · exact (gone_drop hx).shut

/-! ### Acts that ask nothing -/

/-- Nothing is opened where nothing is asked. -/
theorem Tally.stands_before (ht : h.Tally standing) (hl : ∀ q, .request q ∉ l)
    (ho : (h.acts l).Stands o) : h.Stands o := by
  induction l generalizing h standing with
  | nil => exact ho
  | cons a l ih =>
    have hrest : ∀ q, .request q ∉ l := fun q hq => hl q (List.mem_cons_of_mem _ hq)
    obtain ⟨_, hact⟩ := ht.act a
    have hstands := ih hact hrest ho
    have hkept {h' : InProcessHost} (hb : Brings h [] h') (ho : h'.Stands o) : h.Stands o :=
      (ht.stands o).1 (((ht.brings hb).stands o).2 ho)
    cases a with
    | request q => exact absurd List.mem_cons_self (hl q)
    | close x => exact (ht.stands o).1 (List.mem_of_mem_filter (((ht.closes x).stands o).2 hstands))
    | drop x => exact (ht.stands o).1 (List.mem_of_mem_filter (((ht.drops x).stands o).2 hstands))
    | serve url => exact hkept (brings_serve h url) hstands
    | addName | log | takeLogs => exact hkept (.aside h _ _) hstands

/-- What is closed or dropped among some acts is shut after them. -/
theorem shut_acts_of_mem (hserver : ∀ id, x ≠ .server id) (hx : x.number < h.nextId)
    (hl : .close x ∈ l ∨ .drop x ∈ l) : Shut x (h.acts l) := by
  induction l generalizing h with
  | nil => simp at hl
  | cons a l ih =>
    by_cases ha : a = .close x ∨ a = .drop x
    · exact (shut_after hserver hx ha).acts l
    · obtain ⟨hclose, hdrop⟩ := not_or.1 ha
      have hle : h.nextId ≤ (h.act a).nextId := nextId_le_acts h [a]
      refine ih (Nat.lt_of_lt_of_le hx hle) (hl.imp (fun hl => ?_) fun hl => ?_)
      · exact (List.mem_cons.1 hl).resolve_left (Ne.symm hclose)
      · exact (List.mem_cons.1 hl).resolve_left (Ne.symm hdrop)

theorem Stands.not_server (hs : h.Stands o) (id : Nat) : o.resource ≠ .server id := by
  obtain ⟨n, hn⟩ := hs
  intro ho
  unfold Holds at hn
  rw [ho] at hn
  cases hn

theorem Stands.mem_resources (hs : h.Stands o) : o.resource ∈ h.resources := by
  obtain ⟨x, a⟩ := o
  obtain ⟨n, hn⟩ := hs
  have hentry : h.entryOf x = some ⟨false, a, n⟩ := hn
  simp only [resources, List.mem_append]
  cases x with
  | listener id =>
    obtain ⟨l, hl, -⟩ := Option.map_eq_some_iff.1 hentry
    simp [Assoc.mem_keys_of_find? hl]
  | stream id =>
    obtain ⟨t, ht, -⟩ := Option.map_eq_some_iff.1 hentry
    simp [Assoc.mem_keys_of_find? ht]
  | port id =>
    obtain ⟨p, hp, -⟩ := Option.map_eq_some_iff.1 hentry
    simp [Assoc.mem_keys_of_find? hp]
  | channel id =>
    obtain ⟨c, hc, -⟩ := Option.map_eq_some_iff.1 hentry
    simp [Assoc.mem_keys_of_find? hc]
  | server id => cases hentry

end InProcessHost

end SyscallBridge
