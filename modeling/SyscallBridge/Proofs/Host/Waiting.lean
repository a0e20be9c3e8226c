import SyscallBridge.Proofs.Host.Inbox
import SyscallBridge.Proofs.Socket.Calls

/-!
# Calls that wait for a resource

Any number of calls may wait for one resource, and when it is closed a single mark is put in its
queue. Who takes the mark is told that the call was aborted, and the mark is gone. So one call is
told, which is enough when no other one waits.
-/

namespace SyscallBridge

open InProcess

namespace InProcessHost

variable {h h' : InProcessHost} {x y : Resource} {q : Request}

/-! ### A mark ends a wait -/

theorem takeDatagram?_isSome (only : Option NetAddress) (size : Nat) {queue : List Packet}
    (hq : .abort ∈ queue) : (takeDatagram? only size queue).isSome := by
  induction queue with
  | nil => cases hq
  | cons packet queue ih =>
    cases packet with
    | abort => rfl
    | datagram sender payload =>
      have hrest : .abort ∈ queue := by simpa using hq
      unfold takeDatagram?
      split
      · exact ih hrest
      · rfl

theorem take?_isSome {s : Stream} (size : Nat) (hq : .abort ∈ s.queue) :
    (Stream.take? s size).isSome := by
  have hskip : 0 < (skipEmpty s.queue).count .abort := by
    rw [count_skipEmpty]
    exact List.count_pos_iff.2 hq
  unfold Stream.take?
  split
  · rfl
  · split
    · rfl
    · split
      · rename_i heq
        rw [heq] at hskip
        cases hskip
      all_goals rfl

theorem takeArrival?_isSome {id : Nat} {b : Inbox} (hb : h.inbox? (.listener id) = some b)
    (hmark : 0 < b.aborts) : (h.takeArrival? id).isSome := by
  obtain ⟨listener, hl, rfl⟩ := Option.map_eq_some_iff.1 hb
  have hne : listener.queue ≠ [] := List.ne_nil_of_mem (List.count_pos_iff.1 hmark)
  cases hq : listener.queue with
  | nil => exact absurd hq hne
  | cons arrival queue =>
    simp only [takeArrival?, hl, hq]
    cases arrival <;> rfl

theorem readStream?_isSome {id : Nat} {b : Inbox} (hb : h.inbox? (.stream id) = some b)
    (hmark : 0 < b.aborts) (size : Nat) : (h.readStream? id size).isSome := by
  obtain ⟨s, hs, rfl⟩ := Option.map_eq_some_iff.1 hb
  obtain ⟨result, ht⟩ := Option.isSome_iff_exists.1
    (take?_isSome size (List.count_pos_iff.1 hmark))
  simp only [readStream?, hs, ht, Option.bind_eq_bind, Option.bind_some]
  rfl

theorem receiveDatagram?_isSome {id : Nat} {b : Inbox} (hb : h.inbox? (.port id) = some b)
    (hmark : 0 < b.aborts) (only : Option NetAddress) (size : Nat) :
    (h.receiveDatagram? id only size).isSome := by
  obtain ⟨p, hp, rfl⟩ := Option.map_eq_some_iff.1 hb
  obtain ⟨result, ht⟩ := Option.isSome_iff_exists.1
    (takeDatagram?_isSome only size (List.count_pos_iff.1 hmark))
  simp only [receiveDatagram?, hp, ht, Option.bind_eq_bind, Option.bind_some]
  rfl

theorem receiveMessage?_isSome {id : Nat} {b : Inbox} (hb : h.inbox? (.channel id) = some b)
    (hmark : 0 < b.aborts) : (h.receiveMessage? id).isSome := by
  obtain ⟨channel, hc, rfl⟩ := Option.map_eq_some_iff.1 hb
  have hne : channel.queue ≠ [] := List.ne_nil_of_mem (List.count_pos_iff.1 hmark)
  cases hq : channel.queue with
  | nil => exact absurd hq hne
  | cons frame queue =>
    simp only [receiveMessage?, hc, hq]
    cases frame <;> rfl

/-- Whoever waits at a queue with a mark in it has an answer. -/
theorem poll?_isSome {b : Inbox} (hx : q.waits? = some x) (hb : h.inbox? x = some b)
    (hmark : 0 < b.aborts) : (h.poll? q).isSome := by
  cases q with
  | accept l =>
    cases hx
    exact takeArrival?_isSome hb hmark
  | read c size =>
    obtain ⟨protocol, id, own, peer⟩ := c
    cases protocol with
    | tcp =>
      cases hx
      exact readStream?_isSome hb hmark size
    | udp =>
      cases hx
      change ((h.receiveDatagram? id (some peer) size).map _).isSome
      rw [Option.isSome_map]
      exact receiveDatagram?_isSome hb hmark (some peer) size
  | receiveFrom p size =>
    cases hx
    exact receiveDatagram?_isSome hb hmark none size
  | receiveMessage c =>
    cases hx
    exact receiveMessage?_isSome hb hmark
  | acceptChannel server =>
    -- the queue of a server takes no mark
    cases hx
    obtain ⟨s, -, rfl⟩ := Option.map_eq_some_iff.1 hb
    cases hmark
  | resolve | listen | dial | bindPort | dialChannel | write | sendTo | sendMessage => cases hx

/-! ### What a blocked call is told -/

theorem skipEmpty_append {queue : List Segment} (hq : skipEmpty queue = []) :
    skipEmpty (queue ++ [.abort]) = [.abort] := by
  induction queue with
  | nil => rfl
  | cons segment queue ih =>
    unfold skipEmpty at hq
    split at hq
    · rename_i rest heq
      cases heq
      exact ih hq
    · cases hq

theorem takeDatagram?_append {only : Option NetAddress} {size : Nat} {queue : List Packet}
    (hq : takeDatagram? only size queue = none) :
    takeDatagram? only size (queue ++ [.abort]) = some (.error .aborted, []) := by
  induction queue with
  | nil => rfl
  | cons packet queue ih =>
    cases packet with
    | abort => cases hq
    | datagram sender payload =>
      unfold takeDatagram? at hq
      split at hq
      · rename_i hskip
        rw [List.cons_append, takeDatagram?, if_pos hskip]
        exact ih hq
      · cases hq

theorem take?_append {s : Stream} {size : Nat} (ht : Stream.take? s size = none) :
    Stream.take? { s with closed := true, queue := s.queue ++ [.abort] } size =
      some (.error .aborted, { s with closed := true, queue := [] }) := by
  unfold Stream.take? at ht
  split at ht
  · cases ht
  · rename_i hunread
    split at ht
    · cases ht
    · rename_i hended
      split at ht
      · rename_i hskip
        simp only [Stream.take?, if_neg hunread, if_neg hended, skipEmpty_append hskip]
      all_goals cases ht

theorem takeArrival?_close {id : Nat} {b : Inbox} (hb : h.inbox? (.listener id) = some b)
    (hopen : b.closed = false) (hblocked : h.takeArrival? id = none) :
    ∃ h', (h.closeListener id).takeArrival? id = some (.error .aborted, h') := by
  obtain ⟨listener, hl, rfl⟩ := Option.map_eq_some_iff.1 hb
  have hl' : (h.closeListener id).listeners.find? id =
      some { listener with closed := true, queue := listener.queue ++ [.abort] } := by
    have hopen : listener.closed = false := hopen
    simp only [closeListener, hl, hopen, Bool.false_eq_true, if_false, Assoc.find?_insert, if_true]
  have hqueue : listener.queue = [] := by
    cases hq : listener.queue with
    | nil => rfl
    | cons arrival queue =>
      simp only [takeArrival?, hl, hq] at hblocked
      cases arrival <;> cases hblocked
  simp only [takeArrival?, hl', hqueue, List.nil_append]
  exact ⟨_, rfl⟩

/-- The other end is another stream, so that its end mark goes to another queue. -/
theorem readStream?_close {id size : Nat} {b : Inbox} (hb : h.inbox? (.stream id) = some b)
    (hopen : b.closed = false) (hother : b.other ≠ some id)
    (hblocked : h.readStream? id size = none) :
    ∃ h', (h.closeStream id).readStream? id size = some (.error .aborted, h') := by
  obtain ⟨s, hs, rfl⟩ := Option.map_eq_some_iff.1 hb
  have hs' : (h.closeStream id).streams.find? id =
      some { s with closed := true, queue := s.queue ++ [.abort] } := by
    have hopen : s.closed = false := hopen
    have hpeer : id ≠ s.peer := fun he => hother (congrArg some he.symm)
    simp [closeStream, hs, hopen, release, pushSegment, Assoc.find?_modify, Assoc.find?_insert,
      hpeer]
  have ht : Stream.take? s size = none := by
    cases ht : Stream.take? s size with
    | none => rfl
    | some result =>
      simp only [readStream?, hs, ht, Option.bind_eq_bind, Option.bind_some] at hblocked
      cases hblocked
  simp only [readStream?, hs', take?_append ht, Option.bind_eq_bind, Option.bind_some]
  exact ⟨_, rfl⟩

theorem receiveDatagram?_close {id size : Nat} {only : Option NetAddress} {b : Inbox}
    (hb : h.inbox? (.port id) = some b) (hopen : b.closed = false)
    (hblocked : h.receiveDatagram? id only size = none) :
    ∃ h', (h.closePort id).receiveDatagram? id only size = some (.error .aborted, h') := by
  obtain ⟨p, hp, rfl⟩ := Option.map_eq_some_iff.1 hb
  have hp' : (h.closePort id).ports.find? id =
      some { p with closed := true, queue := p.queue ++ [.abort] } := by
    have hopen : p.closed = false := hopen
    simp only [closePort, hp, hopen, Bool.false_eq_true, if_false, Assoc.find?_insert, if_true]
  have ht : takeDatagram? only size p.queue = none := by
    cases ht : takeDatagram? only size p.queue with
    | none => rfl
    | some result =>
      simp only [receiveDatagram?, hp, ht, Option.bind_eq_bind, Option.bind_some] at hblocked
      cases hblocked
  simp only [receiveDatagram?, hp', takeDatagram?_append ht, Option.bind_eq_bind, Option.bind_some]
  exact ⟨_, rfl⟩

theorem receiveMessage?_close {id : Nat} {b : Inbox} (hb : h.inbox? (.channel id) = some b)
    (hopen : b.closed = false) (hother : b.other ≠ some id)
    (hblocked : h.receiveMessage? id = none) :
    ∃ h', (h.closeChannel id).receiveMessage? id = some (.error .aborted, h') := by
  obtain ⟨channel, hc, rfl⟩ := Option.map_eq_some_iff.1 hb
  have hc' : (h.closeChannel id).channels.find? id =
      some { channel with closed := true, queue := channel.queue ++ [.abort] } := by
    have hopen : channel.closed = false := hopen
    have hpeer : id ≠ channel.peer := fun he => hother (congrArg some he.symm)
    simp [closeChannel, hc, hopen, release, pushFrame, Assoc.find?_modify, Assoc.find?_insert,
      hpeer]
  have hqueue : channel.queue = [] := by
    cases hq : channel.queue with
    | nil => rfl
    | cons frame queue =>
      simp only [receiveMessage?, hc, hq] at hblocked
      cases frame <;> cases hblocked
  simp only [receiveMessage?, hc', hqueue, List.nil_append]
  exact ⟨_, rfl⟩

/-- A call that is blocked when its resource is closed finds the mark. -/
theorem poll?_close {b : Inbox} (hx : q.waits? = some x) (hserver : ∀ id, x ≠ .server id)
    (hb : h.inbox? x = some b) (hopen : b.closed = false) (hother : b.other ≠ some x.number)
    (hblocked : h.poll? q = none) : ∃ h', (h.close x).poll? q = some (.error .aborted, h') := by
  cases q with
  | accept l =>
    cases hx
    exact takeArrival?_close hb hopen hblocked
  | read c size =>
    obtain ⟨protocol, id, own, peer⟩ := c
    cases protocol with
    | tcp =>
      cases hx
      exact readStream?_close hb hopen hother hblocked
    | udp =>
      cases hx
      have hblocked : h.receiveDatagram? id (some peer) size = none := by
        simpa only [poll?, read?, Option.map_eq_none_iff] using hblocked
      obtain ⟨h', hreceive⟩ := receiveDatagram?_close hb hopen hblocked
      refine ⟨h', ?_⟩
      change ((h.closePort id).receiveDatagram? id (some peer) size).map _ = _
      rw [hreceive]
      rfl
  | receiveFrom p size =>
    cases hx
    exact receiveDatagram?_close hb hopen hblocked
  | receiveMessage c =>
    cases hx
    exact receiveMessage?_close hb hopen hother hblocked
  | acceptChannel server =>
    cases hx
    exact absurd rfl (hserver server)
  | resolve | listen | dial | bindPort | dialChannel | write | sendTo | sendMessage => cases hx

end InProcessHost

/-- A host with the calls that wait there, and the resources whose closing such a call was told. -/
structure HostRun where
  host : InProcessHost := {}
  waiting : List Request := []
  told : List Resource := []

namespace HostRun

open InProcessHost

/-- Calls wait at a resource that is there and not closed, go on in any order once they have an
answer, and keep their resource from being dropped, by itself or from the queue of another one.
Anything else may happen in between. -/
inductive Step : HostRun → HostRun → Prop where
  | acts {r : HostRun} (a : HostAct) (hreq : ∀ q, a = .request q → q.waits? = none)
    (hdrop : ∀ x, a = .drop x → ∀ y ∈ x :: r.host.queued x, ∀ q ∈ r.waiting,
      q.waits? ≠ some y) :
    Step r { r with host := r.host.act a }
  | joins {r : HostRun} {q : Request} {x : Resource} (hx : q.waits? = some x)
    (there : (r.host.inbox? x).isSome) (hopen : r.host.refuses q = false) :
    Step r { r with waiting := q :: r.waiting }
  | goesOn {r : HostRun} {q : Request} {x : Resource} {answer : Except HostFailure q.Answer}
    {h' : InProcessHost} (hq : q ∈ r.waiting) (hx : q.waits? = some x)
    (hp : r.host.poll? q = some (answer, h')) :
    Step r ⟨h', r.waiting.erase q, List.replicate (marks answer) x ++ r.told⟩

inductive Later : HostRun → HostRun → Prop where
  | refl (r : HostRun) : Later r r
  | step {r r' r'' : HostRun} (h : Later r r') (hs : Step r' r'') : Later r r''

/-- How many calls wait for a resource. -/
def waitingOn (r : HostRun) (x : Resource) : Nat := r.waiting.countP fun q => q.waits? = some x

/-- A closed resource has one mark, in its queue or told to somebody, and an open one has none. -/
structure Sound (r : HostRun) : Prop where
  numbered : ∀ x b, r.host.inbox? x = some b → x.number < r.host.nextId ∧ b.other ≠ some x.number
  counted : ∀ x b, r.host.inbox? x = some b →
    r.told.count x + b.aborts = if b.closed then 1 else 0
  once : ∀ x, r.told.count x ≤ 1
  unused : ∀ x, r.host.nextId ≤ x.number → r.told.count x = 0
  there : ∀ q ∈ r.waiting, ∀ x, q.waits? = some x → (r.host.inbox? x).isSome

variable {r r' : HostRun} {x y : Resource}

theorem sound_start : Sound {} := by
  have hnone (x : Resource) : inbox? {} x = none := by cases x <;> rfl
  refine ⟨?_, ?_, fun x => Nat.zero_le 1, fun x _ => rfl, by simp⟩
  · intro x b hb
    rw [hnone] at hb
    cases hb
  · intro x b hb
    rw [hnone] at hb
    cases hb

theorem Sound.keeps {h' : InProcessHost} (h : r.Sound) (hk : KeepsInboxes r.host h') :
    Sound { r with host := h' } := by
  have hnext := hk.nextId
  refine ⟨fun x b hb => ?_, fun x b hb => ?_, h.once, fun x hx => ?_, fun q hq x hx => ?_⟩
  · rcases hk.inboxes x with heq | ⟨-, hlt, hnew⟩
    · obtain ⟨hnumber, hother⟩ := h.numbered x b (heq ▸ hb)
      exact ⟨by dsimp only; omega, hother⟩
    · exact ⟨hlt, (hnew b hb).2.2⟩
  · rcases hk.inboxes x with heq | ⟨hle, -, hnew⟩
    · exact h.counted x b (heq ▸ hb)
    · obtain ⟨hopen, hmarks, -⟩ := hnew b hb
      rw [h.unused x hle, hmarks, hopen]
      rfl
  · exact h.unused x (by dsimp only at hx; omega)
  · have hthere := h.there q hq x hx
    rcases hk.inboxes x with heq | ⟨hle, -⟩
    · exact heq ▸ hthere
    · obtain ⟨b, hb⟩ := Option.isSome_iff_exists.1 hthere
      have := (h.numbered x b hb).1
      omega

theorem Sound.closes (h : r.Sound) (x : Resource) : Sound { r with host := r.host.close x } := by
  by_cases hserver : ∃ id, x = .server id
  · obtain ⟨id, rfl⟩ := hserver
    exact h
  · have hclose := inbox?_close (h := r.host) (x := x) fun id he => hserver ⟨id, he⟩
    have hnext := nextId_close r.host x
    refine ⟨?_, ?_, h.once, ?_, ?_⟩
    · intro y b hb
      dsimp only at hb ⊢
      rw [hclose] at hb
      rw [hnext]
      split at hb
      · rename_i hy
        obtain ⟨b₀, hb₀, rfl⟩ := Option.map_eq_some_iff.1 hb
        rw [hy, Inbox.shut_other]
        exact h.numbered x b₀ hb₀
      · exact h.numbered y b hb
    · intro y b hb
      dsimp only at hb ⊢
      rw [hclose] at hb
      split at hb
      · rename_i hy
        obtain ⟨b₀, hb₀, rfl⟩ := Option.map_eq_some_iff.1 hb
        have hcount := h.counted x b₀ hb₀
        rw [hy, Inbox.shut_closed, Inbox.shut_aborts]
        by_cases hc : b₀.closed = true
        · rw [if_pos hc] at hcount ⊢
          exact hcount
        · rw [if_neg hc] at hcount ⊢
          simp only [if_true]
          omega
      · exact h.counted y b hb
    · intro y hy
      dsimp only at hy
      rw [hnext] at hy
      exact h.unused y hy
    · intro q hq y hy
      have hthere := h.there q hq y hy
      dsimp only
      rw [hclose]
      split
      · rename_i hyx
        rw [Option.isSome_map, ← hyx]
        exact hthere
      · exact hthere

theorem Sound.forgets (h : r.Sound) {x : Resource} (hx : ∀ q ∈ r.waiting, q.waits? ≠ some x) :
    Sound { r with host := r.host.forget x } := by
  have hforget := inbox?_forget r.host x
  have hnext := nextId_forget r.host x
  have hb₀ : ∀ y b, (r.host.forget x).inbox? y = some b → r.host.inbox? y = some b := by
    intro y b hb
    rw [hforget] at hb
    split at hb
    · cases hb
    · exact hb
  refine ⟨?_, ?_, h.once, ?_, ?_⟩
  · intro y b hb
    dsimp only
    rw [hnext]
    exact h.numbered y b (hb₀ y b hb)
  · intro y b hb
    exact h.counted y b (hb₀ y b hb)
  · intro y hy
    dsimp only at hy
    rw [hnext] at hy
    exact h.unused y hy
  · intro q hq y hy
    have hne : y ≠ x := fun he => hx q hq (he ▸ hy)
    dsimp only
    rw [hforget, if_neg hne]
    exact h.there q hq y hy

theorem Sound.drops (h : r.Sound) {x : Resource}
    (hx : ∀ y ∈ x :: r.host.queued x, ∀ q ∈ r.waiting, q.waits? ≠ some y) :
    Sound { r with host := r.host.drop x } :=
  drop_induct (motive := fun g => Sound { r with host := g }) x
    ((h.closes x).forgets (hx x List.mem_cons_self)) fun y hy _ hg =>
      (hg.closes y).forgets (hx y (List.mem_cons_of_mem _ hy))

theorem Sound.acts (h : r.Sound) (a : HostAct) (hreq : ∀ q, a = .request q → q.waits? = none)
    (hdrop : ∀ x, a = .drop x → ∀ y ∈ x :: r.host.queued x, ∀ q ∈ r.waiting, q.waits? ≠ some y) :
    Sound { r with host := r.host.act a } := by
  rcases act_inboxes a hreq with hk | ⟨y, rfl | rfl⟩
  · exact h.keeps hk
  · exact h.closes y
  · exact h.drops (hdrop y rfl)

theorem count_told (n : Nat) (x y : Resource) (told : List Resource) :
    (List.replicate n x ++ told).count y = (if y = x then n else 0) + told.count y := by
  rw [List.count_append]
  split
  · rename_i hy
    rw [hy, List.count_replicate_self]
  · rename_i hy
    rw [List.count_eq_zero.2 fun hm => hy (List.eq_of_mem_replicate hm)]

theorem Sound.goesOn (h : r.Sound) {q : Request} {answer : Except HostFailure q.Answer}
    {h' : InProcessHost} (hx : q.waits? = some x) (hp : r.host.poll? q = some (answer, h')) :
    Sound ⟨h', r.waiting.erase q, List.replicate (marks answer) x ++ r.told⟩ := by
  obtain ⟨hnext, hothers, b, hb', hb⟩ := takes_poll? hx hp
  have hmarks := h.counted x _ hb
  dsimp only at hmarks
  refine ⟨?_, ?_, ?_, ?_, ?_⟩
  · intro y c hc
    dsimp only at hc ⊢
    rw [hnext]
    by_cases hy : y = x
    · subst hy
      rw [hb'] at hc
      cases hc
      have hnumber := h.numbered y _ hb
      exact hnumber
    · rw [hothers y hy] at hc
      exact h.numbered y c hc
  · intro y c hc
    dsimp only at hc ⊢
    rw [count_told]
    by_cases hy : y = x
    · -- a mark that is taken from the queue is told
      subst hy
      rw [hb'] at hc
      cases hc
      rw [if_pos rfl]
      omega
    · rw [hothers y hy] at hc
      rw [if_neg hy, Nat.zero_add]
      exact h.counted y c hc
  · intro y
    dsimp only
    rw [count_told]
    by_cases hy : y = x
    · have hshut : (if b.closed = true then 1 else 0) ≤ 1 := by split <;> omega
      rw [if_pos hy, hy]
      omega
    · rw [if_neg hy, Nat.zero_add]
      exact h.once y
  · intro y hy
    dsimp only at hy ⊢
    rw [hnext] at hy
    have hlt := (h.numbered x _ hb).1
    have hne : y ≠ x := fun he => by subst he; omega
    rw [count_told, if_neg hne, Nat.zero_add]
    exact h.unused y hy
  · intro q' hq' y hy
    have hthere := h.there q' (List.mem_of_mem_erase hq') y hy
    by_cases hyx : y = x
    · subst hyx
      exact hb' ▸ rfl
    · dsimp only
      rw [hothers y hyx]
      exact hthere

theorem Sound.step (h : r.Sound) (hs : Step r r') : r'.Sound := by
  cases hs with
  | acts a hreq hdrop => exact h.acts a hreq hdrop
  | joins hx there hopen =>
    refine ⟨h.numbered, h.counted, h.once, h.unused, ?_⟩
    intro q hq y hy
    rcases List.mem_cons.1 hq with rfl | hq
    · rw [hx] at hy
      cases hy
      exact there
    · exact h.there q hq y hy
  | goesOn hq hx hp => exact h.goesOn hx hp

theorem Sound.later (h : r.Sound) (hl : Later r r') : r'.Sound := by
  induction hl with
  | refl => exact h
  | step hl hs ih => exact ih.step hs

/-! ### After the closing -/

/-- Since a resource was closed, with `n` calls waiting for it then. -/
structure Ending (x : Resource) (n : Nat) (r : HostRun) : Prop where
  old : x.number < r.host.nextId
  closed : ∀ b, r.host.inbox? x = some b → b.closed = true
  calls : r.waitingOn x + r.told.count x ≤ n

theorem Ending.keeps {h' : InProcessHost} {n : Nat} (h : r.Ending x n)
    (hk : KeepsInboxes r.host h') : Ending x n { r with host := h' } := by
  have hold := h.old
  refine ⟨Nat.lt_of_lt_of_le hold hk.nextId, ?_, h.calls⟩
  intro b hb
  rcases hk.inboxes x with heq | ⟨hle, -⟩
  · exact h.closed b (heq ▸ hb)
  · omega

theorem Ending.closes {n : Nat} (h : r.Ending x n) (y : Resource) :
    Ending x n { r with host := r.host.close y } := by
  by_cases hserver : ∃ id, y = .server id
  · obtain ⟨id, rfl⟩ := hserver
    exact h
  · have hclose := inbox?_close (h := r.host) (x := y) fun id he => hserver ⟨id, he⟩
    refine ⟨?_, ?_, h.calls⟩
    · dsimp only
      rw [nextId_close]
      exact h.old
    · intro b hb
      dsimp only at hb
      rw [hclose] at hb
      split at hb
      · obtain ⟨b₀, -, rfl⟩ := Option.map_eq_some_iff.1 hb
        exact b₀.shut_closed
      · exact h.closed b hb

theorem Ending.forgets {n : Nat} (h : r.Ending x n) (y : Resource) :
    Ending x n { r with host := r.host.forget y } := by
  refine ⟨?_, ?_, h.calls⟩
  · dsimp only
    rw [nextId_forget]
    exact h.old
  · intro b hb
    dsimp only at hb
    rw [inbox?_forget] at hb
    split at hb
    · cases hb
    · exact h.closed b hb

theorem Ending.acts {n : Nat} (h : r.Ending x n) (a : HostAct)
    (hreq : ∀ q, a = .request q → q.waits? = none) :
    Ending x n { r with host := r.host.act a } := by
  rcases act_inboxes a hreq with hk | ⟨y, rfl | rfl⟩
  · exact h.keeps hk
  · exact h.closes y
  · exact drop_induct (motive := fun g => Ending x n { r with host := g }) y
      ((h.closes y).forgets y) fun z _ _ hg => (hg.closes z).forgets z

theorem waitingOn_erase {q : Request} (hq : q ∈ r.waiting) (hy : q.waits? = some y) (x : Resource) :
    (r.waiting.erase q).countP (fun q => q.waits? = some x) + (if y = x then 1 else 0) =
      r.waitingOn x := by
  have hperm := (List.perm_cons_erase hq).countP_eq fun q => q.waits? = some x
  rw [waitingOn, hperm, List.countP_cons, hy]
  simp

theorem Ending.step {n : Nat} (h : r.Ending x n) (hs : Step r r') : r'.Ending x n := by
  cases hs with
  | acts a hreq hdrop => exact h.acts a hreq
  | @joins q y hy there hopen =>
    refine ⟨h.old, h.closed, ?_⟩
    -- nobody starts to wait for a resource that is closed
    have hne : y ≠ x := by
      rintro rfl
      obtain ⟨b, hb⟩ := Option.isSome_iff_exists.1 there
      have hclosed : r.host.refuses q = true := by
        simp [refuses, hy, isClosed_eq, hb, h.closed b hb]
      rw [hclosed] at hopen
      cases hopen
    have hcalls := h.calls
    have hsame : waitingOn { r with waiting := q :: r.waiting } x = r.waitingOn x := by
      simp [waitingOn, hy, hne]
    rw [hsame]
    exact hcalls
  | @goesOn q y answer h' hq hy hp =>
    obtain ⟨hnext, hothers, b, hb', hb⟩ := takes_poll? hy hp
    have hcalls := h.calls
    have herase := r.waitingOn_erase hq hy x
    have hmark : marks answer ≤ 1 := by
      unfold marks
      split <;> omega
    refine ⟨hnext.symm ▸ h.old, ?_, ?_⟩
    · intro c hc
      by_cases hyx : x = y
      · subst hyx
        have heq : b = c := Option.some.inj (hb'.symm.trans hc)
        have hclosed := h.closed _ hb
        exact heq ▸ hclosed
      · have hsame : h'.inbox? x = r.host.inbox? x := hothers x hyx
        exact h.closed c (hsame ▸ hc)
    · change (r.waiting.erase q).countP (fun q => q.waits? = some x) +
        (List.replicate (marks answer) y ++ r.told).count x ≤ n
      rw [count_told]
      by_cases hyx : x = y
      · rw [if_pos hyx.symm] at herase
        rw [if_pos hyx]
        omega
      · rw [if_neg (Ne.symm hyx)] at herase
        rw [if_neg hyx]
        omega

theorem Ending.later {n : Nat} (h : r.Ending x n) (hl : Later r r') : r'.Ending x n := by
  induction hl with
  | refl => exact h
  | step hl hs ih => exact ih.step hs

/-- A resource is closed while calls wait for it, and the host runs on in any way. Any call that is
blocked at the closing can be told of it then, but only one call is told. So one that still waits
later has an answer as long as no other one has been told, and always if no other one waited at the
closing. Calls that come after are refused, and a socket takes either for the end of the stream. -/
theorem closing_tells_one_call (hr : Later {} r) (hserver : ∀ id, x ≠ .server id) {b : Inbox}
    (hb : r.host.inbox? x = some b) (hopen : b.closed = false)
    (hl : Later { r with host := r.host.close x } r') :
    (∀ q, q.waits? = some x → r.host.poll? q = none →
      ∃ h', (r.host.close x).poll? q = some (.error .aborted, h')) ∧
    r.told.count x = 0 ∧ r'.told.count x ≤ 1 ∧
    (∀ q ∈ r'.waiting, q.waits? = some x →
      r'.told.count x = 0 ∨ r.waitingOn x ≤ 1 → (r'.host.poll? q).isSome) ∧
    (∀ q, q.waits? = some x → (r'.host.inbox? x).isSome →
      r'.host.answer? q = some (.error .aborted, r'.host)) ∧
    ∀ (s : Socket) (p : SocketPending), p.request.waits? = some x →
      s.resume p (.error .aborted) = ⟨s, [], .done p.endOfStream⟩ := by
  have hsound := sound_start.later hr
  have hnumber := hsound.numbered x b hb
  have hcount := hsound.counted x b hb
  rw [hopen] at hcount
  have htold : r.told.count x = 0 := by
    simp only [Bool.false_eq_true, if_false] at hcount
    omega
  have hclose := inbox?_close (h := r.host) hserver x
  have hbegins : Ending x (r.waitingOn x) { r with host := r.host.close x } := by
    refine ⟨?_, ?_, ?_⟩
    · dsimp only
      rw [nextId_close]
      exact hnumber.1
    · intro c hc
      dsimp only at hc
      rw [hclose, if_pos rfl, hb] at hc
      cases hc
      exact b.shut_closed
    · change r.waitingOn x + r.told.count x ≤ _
      omega
  have hafter := (hsound.closes x).later hl
  have hends := hbegins.later hl
  refine ⟨?_, htold, hafter.once x, ?_, ?_, ?_⟩
  · intro q hq hblocked
    exact poll?_close hq hserver hb hopen hnumber.2 hblocked
  · intro q hq hx hone
    obtain ⟨c, hc⟩ := Option.isSome_iff_exists.1 (hafter.there q hq x hx)
    have hcounted := hafter.counted x c hc
    rw [hends.closed c hc, if_pos rfl] at hcounted
    have hwaits : 1 ≤ r'.waitingOn x := List.countP_pos_iff.2 ⟨q, hq, decide_eq_true hx⟩
    have hcalls := hends.calls
    refine poll?_isSome hx hc ?_
    omega
  · intro q hq hthere
    obtain ⟨c, hc⟩ := Option.isSome_iff_exists.1 hthere
    have hrefused : r'.host.refuses q = true := by
      simp [refuses, hq, isClosed_eq, hc, hends.closed c hc]
    rw [answer?, if_pos hrefused]
  · intro s p _
    rw [Socket.resume_error, if_pos (Or.inl rfl)]

/-- One call waits for a connection when the listener is closed. -/
theorem closing_tells_one_call_alone :
    let own : NetAddress := ⟨.v4 .loopback, 7001⟩
    let call : Request := .accept ⟨0, own⟩
    let h := ({} : InProcessHost).act (.request (.listen .tcp own))
    let r : HostRun := { host := h, waiting := [call] }
    Later {} r ∧ h.poll? call = none ∧ r.waitingOn (.listener 0) = 1 ∧
      ((h.close (.listener 0)).poll? call).isSome := by
  intro own call h r
  have hlistens : Step {} { host := h } := .acts _ (by rintro q ⟨⟩; rfl) (by simp)
  have hwaits : Step { host := h } r := .joins (x := .listener 0) rfl rfl rfl
  have hr : Later {} r := ((Later.refl {}).step hlistens).step hwaits
  refine ⟨hr, rfl, rfl, ?_⟩
  have hone := (closing_tells_one_call (x := .listener 0) hr (by simp) rfl rfl (.refl _)).2.2.2.1
  exact hone call (List.mem_singleton.2 rfl) rfl (Or.inr (Nat.le_refl 1))

/-- Two calls wait for a connection when the listener is closed. The first one is told, and the
other one waits on at a queue that holds nothing. -/
theorem second_call_waits_after_closing :
    let own : NetAddress := ⟨.v4 .loopback, 7001⟩
    let call : Request := .accept ⟨0, own⟩
    let h := ({} : InProcessHost).acts
      [.request (.listen .tcp own), .close (.listener 0), .request call]
    Later {} { host := h, waiting := [call], told := [.listener 0] } ∧
      h.isClosed (.listener 0) = true ∧ h.poll? call = none := by
  intro own call h
  let listening := ({} : InProcessHost).act (.request (.listen .tcp own))
  let closed := listening.close (.listener 0)
  have hlistens : Step {} { host := listening } := .acts _ (by rintro q ⟨⟩; rfl) (by simp)
  have hfirst : Step { host := listening } { host := listening, waiting := [call] } :=
    .joins (x := .listener 0) rfl rfl rfl
  have hsecond : Step { host := listening, waiting := [call] }
      { host := listening, waiting := [call, call] } := .joins (x := .listener 0) rfl rfl rfl
  have hcloses : Step { host := listening, waiting := [call, call] }
      { host := closed, waiting := [call, call] } :=
    .acts (.close (.listener 0)) (by simp) (by simp)
  have hp : closed.poll? call = some (.error .aborted, h) := rfl
  have htold := Step.goesOn (r := { host := closed, waiting := [call, call] }) (x := .listener 0)
    (List.mem_cons_self ..) rfl hp
  refine ⟨?_, rfl, rfl⟩
  exact (((((Later.refl {}).step hlistens).step hfirst).step hsecond).step hcloses).step htold

end HostRun

end SyscallBridge
