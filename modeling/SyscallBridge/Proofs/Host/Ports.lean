import SyscallBridge.Proofs.Host.Kinds

/-!
# Datagram ports and their registry

The registry maps an address to the one open port there is at it. A port is opened at an address
that is free, keeps it for good, and leaves the registry when it is closed. As long as it is open,
its queue grows at the back, and is taken from by requests that wait at this port only.
-/

namespace SyscallBridge

open InProcess

/-- The resource that an act may take from. -/
def HostAct.waits? : HostAct → Option Resource
  | .request q => q.waits?
  | _ => none

namespace InProcessHost

variable {h h' : InProcessHost} {id : Nat} {own : NetAddress}

/-- Port `id` is there and open, and `own` is its address. -/
def OpenAt (h : InProcessHost) (id : Nat) (own : NetAddress) : Prop :=
  ∃ p, h.ports.find? id = some p ∧ p.closed = false ∧ p.own = own

instance : Decidable (h.OpenAt id own) :=
  decidable_of_iff ((h.ports.find? id).any fun p => !p.closed && p.own = own)
    (by simp [OpenAt, Option.any_eq_true])

/-- What stands in the queue of a port. -/
def packets (h : InProcessHost) (id : Nat) : List Packet :=
  ((h.ports.find? id).map (·.queue)).getD []

theorem packets_of_find? {p : Port} (hp : h.ports.find? id = some p) : h.packets id = p.queue := by
  rw [packets, hp, Option.map_some, Option.getD_some]

theorem find?_pushPacket (h : InProcessHost) (id : Nat) (packet : Packet) (x : Nat) :
    (h.pushPacket id packet).ports.find? x =
      if x = id then (h.ports.find? id).map fun p => { p with queue := p.queue ++ [packet] }
      else h.ports.find? x := Assoc.find?_modify _ _ _ _

/-- What an act does to the ports, and the port it takes something from, if any. -/
inductive PortMove (h : InProcessHost) : Option Nat → InProcessHost → Prop where
  | keeps {h' : InProcessHost} (ports : h'.ports = h.ports) (bound : h'.bound = h.bound)
    (nextId : h.nextId ≤ h'.nextId) : PortMove h none h'
  | opens {h' : InProcessHost} {own : NetAddress} (free : h.bound.find? own = none)
    {slot : Nat} (ports : h'.ports = h.ports.insert h.nextId { slot, own })
    (bound : h'.bound = h.bound.insert own h.nextId) (nextId : h'.nextId = h.nextId + 1) :
    PortMove h none h'
  | sends (taker : Nat) (sender : NetAddress) (payload : Bytes) :
    PortMove h none (h.pushPacket taker (.datagram sender payload))
  | receives {id : Nat} {p : Port} (found : h.ports.find? id = some p) (queue : List Packet) :
    PortMove h (some id) { h with ports := h.ports.insert id { p with queue } }
  | closes {id : Nat} {p : Port} (found : h.ports.find? id = some p) (isOpen : p.closed = false) :
    PortMove h none (h.closePort id)
  | forgets {id : Nat} (closed : ∀ own, ¬ h.OpenAt id own) : PortMove h none (h.forget (.port id))

theorem PortMove.refl (h : InProcessHost) : PortMove h none h := .keeps rfl rfl (Nat.le_refl _)

theorem portMove_close (h : InProcessHost) (id : Nat) : PortMove h none (h.closePort id) := by
  cases hp : h.ports.find? id with
  | none =>
    simp only [closePort, hp]
    exact .refl h
  | some p =>
    cases hclosed : p.closed with
    | true =>
      simp only [closePort, hp, hclosed, if_true]
      exact .refl h
    | false => exact .closes hp hclosed

theorem not_openAt_closePort (h : InProcessHost) (id : Nat) (own : NetAddress) :
    ¬ (h.closePort id).OpenAt id own := by
  rintro ⟨p, hp, hopen, -⟩
  unfold closePort at hp
  split at hp
  · rename_i hnone
    rw [hnone] at hp
    cases hp
  · rename_i found hfound
    split at hp
    · rename_i hclosed
      cases hfound.symm.trans hp
      rw [hclosed] at hopen
      cases hopen
    · dsimp only at hp
      rw [Assoc.find?_insert, if_pos rfl] at hp
      cases hp
      cases hopen

/-- A move that takes from port `x`, if from any. -/
def MovesPorts (x : Option Resource) (h h' : InProcessHost) : Prop :=
  ∃ taken, PortMove h taken h' ∧ ∀ id, taken = some id → x = some (.port id)

theorem PortMove.moves (hm : PortMove h none h') (x : Option Resource) : MovesPorts x h h' :=
  ⟨none, hm, fun _ hid => nomatch hid⟩

theorem PortMove.takes (hm : PortMove h (some id) h') : MovesPorts (some (.port id)) h h' :=
  ⟨some id, hm, fun _ hid => by cases hid; rfl⟩

theorem Served.movesPorts {q : Request} {made : List Opening} {taken : Option (Resource × Nat)}
    (hs : Served h q made taken h') : MovesPorts (taken.map Prod.fst) h h' := by
  have hspares := hs.spares
  have hkeeps (ports : h'.ports = h.ports) (bound : h'.bound = h.bound) :
      MovesPorts (taken.map Prod.fst) h h' :=
    PortMove.moves (.keeps ports bound hspares.nextId) _
  cases hs with
  | opensPort _ _ free => exact PortMove.moves (.opens free rfl rfl rfl) _
  | @sends id sender data => exact PortMove.moves (.sends id sender data) _
  | @receives id n p queue kind found => exact (PortMove.receives found queue).takes
  | nothing | searches | listens | dials | undials | dialsChannel | undialsChannel | writes
  | sendsMessage | accepts | reads | receivesMessage | acceptsChannel => exact hkeeps rfl rfl

theorem movesPorts_request (h : InProcessHost) (q : Request) :
    MovesPorts q.waits? h (h.act (.request q)) := by
  refine act_request_induct (motive := MovesPorts q.waits? h) q ((PortMove.refl h).moves _)
    fun answer h' hp => ?_
  simpa [Function.comp_def] using (served_poll? hp).movesPorts

/-- An act is a move, or two of them where a port is closed and forgotten. -/
theorem act_ports_induct {motive : InProcessHost → Prop} (start : motive h) (a : HostAct)
    (moves : ∀ g g', MovesPorts a.waits? g g' → motive g → motive g') : motive (h.act a) := by
  have hspares := spares_act h a
  have hkeeps (hk : a.kind? ≠ some .port) : motive (h.act a) :=
    moves h _ (PortMove.moves (.keeps (hspares.ports hk) (hspares.bound hk) hspares.nextId) _) start
  cases a with
  | request q => exact moves h _ (movesPorts_request h q) start
  | close x =>
    cases x with
    | port id => exact moves h _ ((portMove_close h id).moves _) start
    | listener | stream | channel | server => exact hkeeps (by simp [HostAct.kind?, Resource.kind])
  | drop x =>
    cases x with
    | port id =>
      have hforget : PortMove (h.closePort id) none ((h.closePort id).forget (.port id)) :=
        .forgets (not_openAt_closePort h id)
      exact moves _ _ (hforget.moves _) (moves h _ ((portMove_close h id).moves _) start)
    | listener | stream | channel | server =>
      exact hkeeps (by simp [HostAct.kind?, Resource.dropKind, Resource.kind])
  | serve | addName | log | takeLogs => exact hkeeps (by simp [HostAct.kind?])

/-! ### The registry -/

/-- Numbers of ports have been given out, and the registry has the open ports and no others. -/
structure Registered (h : InProcessHost) : Prop where
  numbered : ∀ id p, h.ports.find? id = some p → id < h.nextId
  bound_iff : ∀ own id, h.bound.find? own = some id ↔ h.OpenAt id own

theorem registered_start_of_rule (rule : SlotRule) : Registered { slots := { rule } } := by
  refine ⟨fun id p hp => (nomatch hp), fun own id => ⟨fun hb => (nomatch hb), ?_⟩⟩
  rintro ⟨p, hp, -⟩
  cases hp

theorem registered_start : Registered {} := registered_start_of_rule .lastFreed

theorem OpenAt.unique {own' : NetAddress} (h₁ : h.OpenAt id own) (h₂ : h.OpenAt id own') :
    own = own' := by
  obtain ⟨p, hp, -, rfl⟩ := h₁
  obtain ⟨p', hp', -, rfl⟩ := h₂
  cases hp.symm.trans hp'
  rfl

theorem Registered.openAt_lt (hr : h.Registered) (ho : h.OpenAt id own) : id < h.nextId := by
  obtain ⟨p, hp, -⟩ := ho
  exact hr.numbered id p hp

theorem openAt_insert {x : Nat} {p : Port} (hports : h'.ports = h.ports.insert x p) :
    h'.OpenAt id own ↔
      (id = x ∧ p.closed = false ∧ p.own = own) ∨ (id ≠ x ∧ h.OpenAt id own) := by
  simp only [OpenAt, hports, Assoc.find?_insert]
  split
  · rename_i hx
    simp [hx]
  · rename_i hx
    simp [hx]

theorem openAt_set {x : Nat} {p : Port} (hp : h.ports.find? x = some p) {p' : Port}
    (hown : p'.own = p.own) (hclosed : p'.closed = p.closed)
    (hports : h'.ports = h.ports.insert x p') : h'.OpenAt id own ↔ h.OpenAt id own := by
  rw [openAt_insert hports, hown, hclosed]
  by_cases hx : id = x
  · subst hx
    simp [OpenAt, hp]
  · simp [hx]

theorem openAt_pushPacket (h : InProcessHost) (x : Nat) (packet : Packet) :
    (h.pushPacket x packet).OpenAt id own ↔ h.OpenAt id own := by
  simp only [OpenAt, find?_pushPacket]
  split
  · rename_i hx
    rw [hx]
    cases h.ports.find? x <;> simp
  · rfl

theorem PortMove.nextId {taken : Option Nat} (hm : PortMove h taken h') : h.nextId ≤ h'.nextId := by
  cases hm with
  | keeps _ _ nextId => exact nextId
  | opens _ _ _ nextId => omega
  | sends | receives | forgets => exact Nat.le_refl _
  | closes => exact (spares_close h (.port _)).nextId

theorem closePort_eq {p : Port} (hp : h.ports.find? id = some p) (hopen : p.closed = false) :
    (h.closePort id).ports =
        h.ports.insert id { p with closed := true, queue := p.queue ++ [.abort] } ∧
      (h.closePort id).bound = h.bound.erase p.own ∧ (h.closePort id).nextId = h.nextId := by
  simp [closePort, hp, hopen, release]

theorem Registered.opens (hr : h.Registered) (free : h.bound.find? own = none)
    {slot : Nat} (ports : h'.ports = h.ports.insert h.nextId { slot, own })
    (bound : h'.bound = h.bound.insert own h.nextId) (nextId : h'.nextId = h.nextId + 1) :
    h'.Registered where
  numbered id p hp := by
    rw [ports, Assoc.find?_insert] at hp
    split at hp
    · omega
    · have := hr.numbered id p hp
      omega
  bound_iff a id := by
    rw [bound, Assoc.find?_insert, openAt_insert ports]
    split
    · -- the address was free, so no other port is open at it
      rename_i ha
      subst ha
      have hnot : ¬ h.OpenAt id a := by
        rw [← hr.bound_iff, free]
        simp
      simp [hnot, eq_comm]
    · rename_i ha
      rw [hr.bound_iff]
      constructor
      · intro hopen
        have := hr.openAt_lt hopen
        exact Or.inr ⟨by omega, hopen⟩
      · rintro (⟨-, -, hown⟩ | ⟨-, hopen⟩)
        · exact absurd hown.symm ha
        · exact hopen

theorem Registered.sends (hr : h.Registered) (taker : Nat) (packet : Packet) :
    (h.pushPacket taker packet).Registered where
  numbered id p hp := by
    rw [find?_pushPacket] at hp
    split at hp
    · rename_i hid
      obtain ⟨p', hp', -⟩ := Option.map_eq_some_iff.1 hp
      exact hid ▸ hr.numbered taker p' hp'
    · exact hr.numbered id p hp
  bound_iff a id := by
    rw [openAt_pushPacket]
    exact hr.bound_iff a id

theorem Registered.receives (hr : h.Registered) {p : Port} (found : h.ports.find? id = some p)
    (queue : List Packet) :
    Registered { h with ports := h.ports.insert id { p with queue } } where
  numbered x p' hp := by
    rw [Assoc.find?_insert] at hp
    split at hp
    · rename_i hx
      exact hx ▸ hr.numbered id p found
    · exact hr.numbered x p' hp
  bound_iff a x := by
    have hown : ({ p with queue } : Port).own = p.own := rfl
    rw [openAt_set found hown rfl rfl]
    exact hr.bound_iff a x

theorem Registered.closes (hr : h.Registered) {p : Port} (found : h.ports.find? id = some p)
    (isOpen : p.closed = false) : (h.closePort id).Registered := by
  obtain ⟨hports, hbound, hnext⟩ := closePort_eq found isOpen
  have hat : h.OpenAt id p.own := ⟨p, found, isOpen, rfl⟩
  refine ⟨fun x p' hp => ?_, fun a x => ?_⟩
  · rw [hports, Assoc.find?_insert] at hp
    rw [hnext]
    split at hp
    · rename_i hx
      exact hx ▸ hr.numbered id p found
    · exact hr.numbered x p' hp
  · rw [hbound, Assoc.find?_erase, openAt_insert hports]
    split
    · -- at the address that leaves the registry no port was open but the one that is closed
      rename_i ha
      subst ha
      have hsame (hopen : h.OpenAt x p.own) : x = id := by
        have hid := (hr.bound_iff p.own id).2 hat
        cases hid.symm.trans ((hr.bound_iff p.own x).2 hopen)
        rfl
      simp only [Bool.true_eq_false, false_and, and_false, false_or]
      exact ⟨fun hb => (nomatch hb), fun ⟨hne, hopen⟩ => absurd (hsame hopen) hne⟩
    · rename_i ha
      rw [hr.bound_iff]
      simp only [Bool.true_eq_false, false_and, and_false, false_or]
      refine ⟨fun hopen => ⟨?_, hopen⟩, fun hopen => hopen.2⟩
      rintro rfl
      exact ha (hopen.unique hat)

theorem Registered.forgets (hr : h.Registered) (closed : ∀ own, ¬ h.OpenAt id own) :
    (h.forget (.port id)).Registered := by
  have hfind (x : Nat) : (h.ports.erase id).find? x = _ := Assoc.find?_erase h.ports id x
  refine ⟨fun x p hp => ?_, fun a x => ?_⟩
  · have hp : (h.ports.erase id).find? x = some p := hp
    rw [hfind] at hp
    split at hp
    · cases hp
    · exact hr.numbered x p hp
  · change h.bound.find? a = some x ↔ ∃ p, (h.ports.erase id).find? x = some p ∧ _
    rw [hr.bound_iff, hfind]
    split
    · rename_i hx
      subst hx
      simp [closed]
    · rfl

theorem Registered.move {taken : Option Nat} (hr : h.Registered) (hm : PortMove h taken h') :
    h'.Registered := by
  cases hm with
  | keeps ports bound nextId =>
    refine ⟨fun id p hp => Nat.lt_of_lt_of_le (hr.numbered id p (ports ▸ hp)) nextId, ?_⟩
    intro own id
    rw [bound, hr.bound_iff, OpenAt, OpenAt, ports]
  | opens free ports bound nextId => exact hr.opens free ports bound nextId
  | sends taker sender payload => exact hr.sends taker _
  | receives found queue => exact hr.receives found queue
  | closes found isOpen => exact hr.closes found isOpen
  | forgets closed => exact hr.forgets closed

theorem Registered.act (hr : h.Registered) (a : HostAct) : (h.act a).Registered :=
  act_ports_induct hr a fun _ _ ⟨_, hm, _⟩ hr => hr.move hm

theorem Registered.acts (hr : h.Registered) (l : List HostAct) : (h.acts l).Registered := by
  induction l generalizing h with
  | nil => exact hr
  | cons a l ih => exact ih (hr.act a)

/-! ### Queues of open ports -/

theorem packets_of_eq (hf : h'.ports.find? id = h.ports.find? id) :
    h'.packets id = h.packets id := by
  rw [packets, hf, packets]

theorem packets_insert_of_ne {x : Nat} {p : Port} (hports : h'.ports = h.ports.insert x p)
    (hx : id ≠ x) : h'.packets id = h.packets id := by
  apply packets_of_eq
  rw [hports, Assoc.find?_insert, if_neg hx]

theorem packets_pushPacket (h : InProcessHost) (x : Nat) (packet : Packet) :
    (h.pushPacket x packet).packets id =
      if id = x ∧ (h.ports.find? x).isSome then h.packets id ++ [packet] else h.packets id := by
  simp only [packets, find?_pushPacket]
  by_cases hx : id = x
  · subst hx
    cases h.ports.find? id <;> simp
  · simp [hx]

/-- A port that is open after a move, and is no new one, was open before at the same address, and
its queue has grown at the back unless the move took from it. -/
theorem PortMove.open_before {taken : Option Nat} (hm : PortMove h taken h') (hid : id < h.nextId)
    (hopen : h'.OpenAt id own) :
    h.OpenAt id own ∧ (taken ≠ some id → ∃ more, h'.packets id = h.packets id ++ more) := by
  have hsame (heq : h'.packets id = h.packets id) :
      ∃ more, h'.packets id = h.packets id ++ more := ⟨[], by rw [heq, List.append_nil]⟩
  cases hm with
  | keeps ports =>
    have hfind : h'.ports.find? id = h.ports.find? id := by rw [ports]
    refine ⟨?_, fun _ => hsame (packets_of_eq hfind)⟩
    rwa [OpenAt, ← hfind]
  | opens free ports =>
    rcases (openAt_insert ports).1 hopen with ⟨rfl, -⟩ | ⟨hne, hopen⟩
    · exact absurd hid (Nat.lt_irrefl _)
    · exact ⟨hopen, fun _ => hsame (packets_insert_of_ne ports hne)⟩
  | sends taker sender payload =>
    refine ⟨(openAt_pushPacket h taker _).1 hopen, fun _ => ?_⟩
    rw [packets_pushPacket]
    split
    · exact ⟨_, rfl⟩
    · exact ⟨[], (List.append_nil _).symm⟩
  | receives found queue =>
    rename_i x p
    have hown : ({ p with queue } : Port).own = p.own := rfl
    refine ⟨(openAt_set found hown rfl rfl).1 hopen, fun htaken => ?_⟩
    exact hsame (packets_insert_of_ne rfl fun hx => htaken (by rw [hx]))
  | closes found isOpen =>
    obtain ⟨hports, -, -⟩ := closePort_eq found isOpen
    rcases (openAt_insert hports).1 hopen with ⟨-, hclosed, -⟩ | ⟨hne, hopen⟩
    · cases hclosed
    · exact ⟨hopen, fun _ => hsame (packets_insert_of_ne hports hne)⟩
  | forgets closed =>
    rename_i x
    have hfind : (h.forget (.port x)).ports.find? id = _ := Assoc.find?_erase h.ports x id
    by_cases hx : id = x
    · obtain ⟨p, hp, -⟩ := hopen
      rw [hfind, if_pos hx] at hp
      cases hp
    · rw [if_neg hx] at hfind
      refine ⟨?_, fun _ => hsame (packets_of_eq hfind)⟩
      rwa [OpenAt, ← hfind]

theorem openAt_before_act (a : HostAct) (hid : id < h.nextId) (hopen : (h.act a).OpenAt id own) :
    h.OpenAt id own := by
  refine (act_ports_induct (motive := fun g => id < g.nextId ∧ (g.OpenAt id own → h.OpenAt id own))
    ⟨hid, fun hopen => hopen⟩ a ?_).2 hopen
  rintro g g' ⟨taken, hm, -⟩ ⟨hlt, hbefore⟩
  exact ⟨Nat.lt_of_lt_of_le hlt hm.nextId, fun hopen => hbefore (hm.open_before hlt hopen).1⟩

theorem openAt_before_acts (l : List HostAct) (hid : id < h.nextId)
    (hopen : (h.acts l).OpenAt id own) : h.OpenAt id own := by
  induction l generalizing h with
  | nil => exact hopen
  | cons a l ih =>
    have hnext := (spares_act h a).nextId
    exact openAt_before_act a hid (ih (Nat.lt_of_lt_of_le hid hnext) hopen)

/-- An act that does not wait at an open port only adds to its queue. -/
theorem packets_act {a : HostAct} (hid : id < h.nextId) (hopen : (h.act a).OpenAt id own)
    (ha : a.waits? ≠ some (.port id)) : ∃ more, (h.act a).packets id = h.packets id ++ more := by
  have hgrows := act_ports_induct (motive := fun g => id < g.nextId ∧
    (g.OpenAt id own → ∃ more, g.packets id = h.packets id ++ more))
    ⟨hid, fun _ => ⟨[], (List.append_nil _).symm⟩⟩ a ?_
  · exact hgrows.2 hopen
  · rintro g g' ⟨taken, hm, htaken⟩ ⟨hlt, hbefore⟩
    refine ⟨Nat.lt_of_lt_of_le hlt hm.nextId, fun hopen => ?_⟩
    obtain ⟨hopen, hmore⟩ := hm.open_before hlt hopen
    obtain ⟨more, heq⟩ := hbefore hopen
    obtain ⟨more', heq'⟩ := hmore fun hid => ha (htaken id hid)
    exact ⟨more ++ more', by rw [heq', heq, List.append_assoc]⟩

end InProcessHost

end SyscallBridge
