import Mathlib.Data.List.InsertIdx
import SyscallBridge.Proofs.Host.Dialing

/-!
# The ledger

A ledger is kept from the calls and their answers: what is open, which listeners and servers are
there, what waits at them, and which dials are under way. Who takes a dial is read off the ledger,
and so is what goes when a listener or a server is dropped. The host holds a slot for each resource
that is open in the ledger and for no other, in whatever order slots are used again.
-/

namespace SyscallBridge

open InProcess

/-- A dial under way, with who is to take its far side. -/
structure Underway where
  target : Resource
  far : Resource
  near : Resource
  deriving DecidableEq, Repr

def HostDial.underway (d : HostDial) : Underway := ⟨d.target, d.far, d.near⟩

structure Ledger where
  standing : List Opening := []
  /-- The listeners that were not dropped, closed or not. -/
  listeners : List Nat := []
  servers : List (Nat × String) := []
  /-- What waits, with those it waits at, first come first. -/
  waiting : List (Resource × Resource) := []
  dials : List Underway := []
  deriving DecidableEq, Repr

namespace Ledger

variable (k : Ledger)

def queue (x : Resource) : List Resource := (k.waiting.filter fun w => w.1 = x).map Prod.snd

def isThere : Resource → Bool
  | .listener id => k.listeners.contains id
  | .server id => k.servers.any fun s => s.1 = id
  | _ => false

def listenerAt? (a : NetAddress) : Option Resource :=
  (k.standing.find? fun o => o.resource.kind = .listener && o.address = some a).map
    Opening.resource

def listenerFor? (peer : NetAddress) : Option Resource :=
  k.listenerAt? peer <|> k.listenerAt? peer.unspecified

def serverFor? (url : String) : Option Resource :=
  (k.servers.find? fun s => s.2 = url).map fun s => .server s.1

/-- What is dialed waits at whoever takes it. -/
def waits (target : Option Resource) (far : Resource) : Ledger :=
  match target with
  | some x => { k with waiting := k.waiting ++ [(x, far)] }
  | none => k

def takes (x y : Resource) : Ledger := { k with waiting := k.waiting.erase (x, y) }

/-- Who is there and what waits, after an answer. -/
def queues : (q : Request) → Except HostFailure q.Answer → Ledger
  | .listen .., .ok l => { k with listeners := l.id :: k.listeners }
  | .dial .tcp _ peer, .ok c => k.waits (k.listenerFor? peer) (.stream (c.id + 1))
  | .dialChannel url, .ok c => k.waits (k.serverFor? url) (.channel (c.id + 1))
  | .accept l, .ok c => k.takes l.resource (.stream c.id)
  | .acceptChannel server, .ok c => k.takes (.server server) c.resource
  | _, _ => k

def answered (q : Request) (answer : Except HostFailure q.Answer) : Ledger :=
  { k.queues q answer with standing := q.opened answer ++ k.standing }

def close (x : Resource) : Ledger :=
  { k with standing := k.standing.filter fun o => o.resource ≠ x }

def without (gone : List Resource) : Ledger :=
  { k with
    standing := k.standing.filter fun o => o.resource ∉ gone
    listeners := k.listeners.filter fun id => .listener id ∉ gone
    servers := k.servers.filter fun s => .server s.1 ∉ gone
    waiting := k.waiting.filter fun w => w.1 ∉ gone }

/-- With a resource goes what waits at it. -/
def drop (x : Resource) : Ledger := k.without (x :: k.queue x)

/-- Of the host only the answers are read. -/
def act (h : InProcessHost) : HostAct → Ledger
  | .request q =>
    match h.poll? q with
    | some (answer, _) => k.answered q answer
    | none => k
  | .close x => k.close x
  | .drop x => k.drop x
  | .serve url =>
    match (h.serve url).1 with
    | .ok id => { k with servers := (id, url) :: k.servers }
    | .error _ => k
  | .addName .. | .log _ | .takeLogs => k

/-- Both sides of a dial are open from its first step on. -/
def begins (target : Option Resource) (far near : Resource) : Ledger :=
  match target with
  | some x => { k with
      standing := ⟨far, none⟩ :: ⟨near, none⟩ :: k.standing
      dials := k.dials ++ [⟨x, far, near⟩] }
  | none => k

/-- The second step, which fails if who was found is there no more. -/
def hands (d : Underway) : Ledger :=
  if k.isThere d.target then k.waits (some d.target) d.far else (k.drop d.far).drop d.near

def move (s : BusyHost) : HostMove → Ledger
  | .act a => k.act s.host a
  | .beginStream own peer =>
    match s.host.startStream? own peer with
    | some (.ok d, _) => k.begins (k.listenerFor? peer) (.stream d.far.id) (.stream d.near.id)
    | _ => k
  | .beginChannel url =>
    match s.host.startChannel url with
    | (.ok d, _) => k.begins (k.serverFor? url) (.channel d.far.id) (.channel d.near.id)
    | (.error _, _) => k
  | .deliver i =>
    match k.dials[i]? with
    | some d => { k.hands d with dials := k.dials.eraseIdx i }
    | none => k

def run (k : Ledger) (s : BusyHost) : List HostMove → Ledger
  | [] => k
  | m :: moves => (k.move s m).run (s.move m) moves

/-! ### Dials of the ledger -/

@[simp] theorem dials_waits (target : Option Resource) (far : Resource) :
    (k.waits target far).dials = k.dials := by cases target <;> rfl

theorem dials_queues (q : Request) (answer : Except HostFailure q.Answer) :
    (k.queues q answer).dials = k.dials := by
  unfold queues
  split <;> simp [takes]

theorem dials_act (h : InProcessHost) (a : HostAct) : (k.act h a).dials = k.dials := by
  cases a with
  | request q =>
    simp only [act]
    split
    · exact dials_queues k q _
    · rfl
  | serve url =>
    simp only [act]
    split <;> rfl
  | close | drop | addName | log | takeLogs => rfl

/-! ### Queues of the ledger -/

variable {k} {x y z : Resource}

theorem queue_append : Ledger.queue { k with waiting := k.waiting ++ [(x, y)] } z =
    k.queue z ++ if z = x then [y] else [] := by
  rw [queue, List.filter_append, List.map_append]
  by_cases hz : z = x
  · simp [queue, hz]
  · simp [queue, hz, Ne.symm hz]

theorem queue_takes : (k.takes x y).queue z = if z = x then (k.queue x).erase y else k.queue z := by
  unfold takes queue
  dsimp only
  induction k.waiting with
  | nil => simp
  | cons w waiting ih =>
    obtain ⟨x', y'⟩ := w
    by_cases hw : (x', y') = (x, y)
    · cases hw
      rw [List.erase_cons_head]
      split
      · rename_i hz
        simp [hz]
      · rename_i hz
        simp [Ne.symm hz]
    · -- what is taken stands further back, in this queue or in another one
      rw [List.erase_cons_tail (by simpa using hw)]
      by_cases hx : x' = z
      · subst hx
        rw [List.filter_cons_of_pos (by simp), List.map_cons, ih]
        split
        · rename_i hx
          subst hx
          have hy : y' ≠ y := fun hy => hw (hy ▸ rfl)
          simp [hy]
        · simp
      · rw [List.filter_cons_of_neg (by simpa using hx), ih]
        split
        · rename_i hz
          subst hz
          simp [hx]
        · simp [hx]

theorem queue_without (gone : List Resource) :
    (k.without gone).queue z = if z ∈ gone then [] else k.queue z := by
  unfold without queue
  dsimp only
  rw [List.filter_filter]
  split
  · rename_i hz
    rw [List.filter_eq_nil_iff.2, List.map_nil]
    rintro w -
    simp only [Bool.and_eq_true, decide_eq_true_eq, not_and, not_not]
    rintro rfl
    exact hz
  · rename_i hz
    refine congrArg _ (List.filter_congr fun w _ => ?_)
    by_cases hw : w.1 = z
    · simp [hw, hz]
    · simp [hw]

theorem without_cons (gone : List Resource) :
    k.without (x :: gone) = (k.without [x]).without gone := by
  simp [without, List.filter_filter, Bool.and_comm]

end Ledger

namespace InProcessHost

variable {h h' : InProcessHost} {k : Ledger} {x y : Resource} {q : Request} {d : HostDial}

/-! ### Who is there -/

/-- The ledger has the listeners, the servers and all queues of the host. -/
structure Listed (h : InProcessHost) (k : Ledger) : Prop where
  listeners : ∀ id, id ∈ k.listeners ↔ (h.inbox? (.listener id)).isSome
  servers : ∀ id url, (id, url) ∈ k.servers ↔ (h.servers.find? id).map Server.url = some url
  serving : ∀ url id, h.serving.find? url = some id ↔ (id, url) ∈ k.servers
  queued : ∀ x, h.queued x = k.queue x

theorem Listed.keeps (hl : h.Listed k)
    (listeners : ∀ id, (h'.inbox? (.listener id)).isSome = (h.inbox? (.listener id)).isSome)
    (servers : h'.servers = h.servers) (serving : h'.serving = h.serving)
    (queued : ∀ x, h'.queued x = h.queued x) : h'.Listed k where
  listeners := fun id => by rw [listeners, hl.listeners]
  servers := fun id url => by rw [servers, hl.servers]
  serving := fun url id => by rw [serving, hl.serving]
  queued := fun x => (queued x).trans (hl.queued x)

theorem Listed.of_eq (hl : h.Listed k) (listeners : h'.listeners = h.listeners)
    (servers : h'.servers = h.servers) (serving : h'.serving = h.serving) : h'.Listed k :=
  hl.keeps (fun id => by rw [inbox?, listeners, inbox?]) servers serving
    fun _ => queued_of_eq listeners servers

theorem Listed.same {k' : Ledger} (hl : h.Listed k) (listeners : k'.listeners = k.listeners)
    (servers : k'.servers = k.servers) (waiting : k'.waiting = k.waiting) : h.Listed k' where
  listeners := fun id => by rw [listeners, hl.listeners]
  servers := fun id url => by rw [servers, hl.servers]
  serving := fun url id => by rw [servers, hl.serving]
  queued := fun x => by rw [hl.queued, Ledger.queue, Ledger.queue, waiting]

theorem Listed.isThere (hl : h.Listed k) (d : HostDial) :
    k.isThere d.target = (h.inbox? d.target).isSome := by
  rw [Bool.eq_iff_iff]
  cases d with
  | stream d =>
    rw [HostDial.target, ← hl.listeners, Ledger.isThere, List.contains_iff_mem]
  | channel d =>
    have hserver : (h.servers.find? d.server).isSome ↔ ∃ url, (d.server, url) ∈ k.servers := by
      simp only [hl.servers]
      cases h.servers.find? d.server <;> simp
    simp only [HostDial.target, inbox?, Option.isSome_map, hserver, Ledger.isThere, List.any_eq_true,
      decide_eq_true_eq]
    constructor
    · rintro ⟨⟨id, url⟩, hmem, rfl⟩
      exact ⟨url, hmem⟩
    · rintro ⟨url, hmem⟩
      exact ⟨_, hmem, rfl⟩

/-! ### Routes of the ledger -/

theorem map_find?_eq {α β : Type} {l : List α} {p : α → Bool} {f : α → β} {r : Option β}
    (hr : ∀ b, r = some b ↔ ∃ a ∈ l, p a = true ∧ f a = b) : (l.find? p).map f = r := by
  cases hfind : l.find? p with
  | none =>
    have hnone := List.find?_eq_none.1 hfind
    cases r with
    | none => rfl
    | some b =>
      obtain ⟨a, ha, hp, -⟩ := (hr b).1 rfl
      exact absurd hp (hnone a ha)
  | some a => exact ((hr (f a)).2 ⟨a, List.mem_of_find?_eq_some hfind, List.find?_some hfind, rfl⟩).symm

theorem Tally.listenerAt? (ht : h.Tally k.standing) (a : NetAddress) :
    k.listenerAt? a = (h.listening.find? a).map .listener := by
  refine map_find?_eq fun x => ?_
  simp only [Option.map_eq_some_iff, ht.listening, Bool.and_eq_true, decide_eq_true_eq]
  constructor
  · rintro ⟨id, hid, rfl⟩
    exact ⟨_, hid, ⟨rfl, rfl⟩, rfl⟩
  · rintro ⟨⟨x, b⟩, hmem, ⟨hkind, rfl⟩, rfl⟩
    cases x with
    | listener id => exact ⟨id, hmem, rfl⟩
    | stream | port | channel | server => cases hkind

theorem Tally.listenerFor? (ht : h.Tally k.standing) (peer : NetAddress) :
    k.listenerFor? peer = (h.listenerFor? peer).map .listener := by
  rw [Ledger.listenerFor?, ht.listenerAt?, ht.listenerAt?, InProcessHost.listenerFor?]
  cases h.listening.find? peer <;> rfl

theorem Listed.serverFor? (hl : h.Listed k) (url : String) :
    k.serverFor? url = (h.serving.find? url).map .server := by
  refine map_find?_eq fun x => ?_
  simp only [Option.map_eq_some_iff, hl.serving, decide_eq_true_eq]
  constructor
  · rintro ⟨id, hid, rfl⟩
    exact ⟨_, hid, rfl, rfl⟩
  · rintro ⟨⟨id, url⟩, hmem, rfl, rfl⟩
    exact ⟨id, hmem, rfl⟩

/-- Who was found for a dial is who takes it by the ledger, and the far side has the next number. -/
theorem Tally.target_of_start (ht : h.Tally k.standing) {own : Option NetAddress}
    {peer : NetAddress} {d : StreamDial} (hs : h.startStream? own peer = some (.ok d, h')) :
    k.listenerFor? peer = some (HostDial.stream d).target ∧ d.far.id = d.near.id + 1 := by
  rcases startStream?_eq_some hs with ⟨-, hd, -⟩ | ⟨b, next, n, hroute, -, hd, -⟩
  · cases hd
  · cases hd
    rw [ht.listenerFor?, hroute]
    exact ⟨rfl, rfl⟩

theorem Listed.target_of_start (hl : h.Listed k) {url : String} {d : ChannelDial}
    (hs : h.startChannel url = (.ok d, h')) :
    k.serverFor? url = some (HostDial.channel d).target ∧ d.far.id = d.near.id + 1 := by
  rcases startChannel_cases h url with ⟨-, hd⟩ | ⟨server, hroute, hd⟩
  · cases hd.symm.trans hs
  · cases hd.symm.trans hs
    rw [hl.serverFor?, hroute]
    exact ⟨rfl, rfl⟩

/-! ### Ends in the ledger -/

theorem servers_close (h : InProcessHost) (x : Resource) :
    (h.close x).servers = h.servers ∧ (h.close x).serving = h.serving := by
  cases x with
  | listener id =>
    change (h.closeListener id).servers = _ ∧ (h.closeListener id).serving = _
    unfold closeListener
    split
    · exact ⟨rfl, rfl⟩
    · split <;> exact ⟨rfl, rfl⟩
  | stream id =>
    change (h.closeStream id).servers = _ ∧ (h.closeStream id).serving = _
    unfold closeStream
    split
    · exact ⟨rfl, rfl⟩
    · split <;> exact ⟨rfl, rfl⟩
  | port id =>
    change (h.closePort id).servers = _ ∧ (h.closePort id).serving = _
    unfold closePort
    split
    · exact ⟨rfl, rfl⟩
    · split <;> exact ⟨rfl, rfl⟩
  | channel id =>
    change (h.closeChannel id).servers = _ ∧ (h.closeChannel id).serving = _
    unfold closeChannel
    split
    · exact ⟨rfl, rfl⟩
    · split <;> exact ⟨rfl, rfl⟩
  | server => exact ⟨rfl, rfl⟩

theorem Listed.closes (hl : h.Listed k) (x : Resource) : (h.close x).Listed k := by
  obtain ⟨hservers, hserving⟩ := servers_close h x
  refine hl.keeps (fun id => ?_) hservers hserving (queued_close h x)
  by_cases hx : ∃ n, x = .server n
  · obtain ⟨n, rfl⟩ := hx
    rfl
  · rw [inbox?_close fun n hn => hx ⟨n, hn⟩]
    split
    · rename_i hid
      rw [Option.isSome_map, hid]
    · rfl

theorem Listed.forgets (hl : h.Listed k) (x : Resource) : (h.forget x).Listed (k.without [x]) where
  listeners := fun id => by
    rw [inbox?_forget, Ledger.without, List.mem_filter, hl.listeners]
    by_cases hid : Resource.listener id = x <;> simp [hid]
  servers := fun id url => by
    have hfind : (h.forget x).servers.find? id =
        if Resource.server id = x then none else h.servers.find? id := by
      cases x with
      | server n =>
        simp only [forget, Assoc.find?_erase, Resource.server.injEq]
      | listener | stream | port | channel => exact (if_neg (by simp)).symm
    rw [hfind, Ledger.without, List.mem_filter, hl.servers]
    by_cases hid : Resource.server id = x <;> simp [hid]
  serving := fun url id => by
    rw [Ledger.without, List.mem_filter, ← hl.serving]
    cases x with
    | server n =>
      simp only [forget, List.mem_singleton, Resource.server.injEq, decide_eq_true_eq]
      cases hn : h.servers.find? n with
      | none =>
        -- who is not there serves no URL
        have hother (hid : h.serving.find? url = some id) : id ≠ n := by
          rintro rfl
          have := (hl.servers id url).1 ((hl.serving url id).1 hid)
          rw [hn] at this
          cases this
        exact ⟨fun hid => ⟨hid, hother hid⟩, fun hboth => hboth.1⟩
      | some s =>
        -- the URL that leaves the registry is that of this server alone
        have hserves : h.serving.find? s.url = some n := by
          rw [hl.serving, hl.servers, hn]
          rfl
        simp only [Option.map_some, Option.getD_some, Assoc.find?_erase]
        split
        · rename_i hurl
          subst hurl
          rw [hserves]
          simp [eq_comm]
        · rename_i hurl
          refine ⟨fun hid => ⟨hid, ?_⟩, fun hboth => hboth.1⟩
          rintro rfl
          have := (hl.servers id url).1 ((hl.serving url id).1 hid)
          rw [hn] at this
          exact hurl (Option.some.inj this).symm
    | listener | stream | port | channel => simp [forget]
  queued := fun y => by
    rw [queued_forget, Ledger.queue_without, hl.queued]
    simp only [List.mem_singleton]

theorem Listed.discards_all (hl : h.Listed k) (l : List Resource) :
    (l.foldl discard h).Listed (k.without l) := by
  induction l generalizing h k with
  | nil =>
    have hsame : k.without [] = k := by simp [Ledger.without]
    exact hsame.symm ▸ hl
  | cons x l ih =>
    rw [Ledger.without_cons]
    exact ih ((hl.closes x).forgets x)

theorem Listed.drops (hl : h.Listed k) (x : Resource) : (h.drop x).Listed (k.drop x) := by
  rw [Ledger.drop, ← hl.queued]
  exact hl.discards_all (x :: h.queued x)

/-! ### Answers in the ledger -/

theorem Listed.listens (hl : h.Listed k) (hm : h.Marked) (l : Listener) (hqueue : l.queue = []) :
    Listed { h with listeners := h.listeners.insert h.nextId l }
      { k with listeners := h.nextId :: k.listeners } where
  listeners := fun id => by
    rw [List.mem_cons, hl.listeners, inbox?_setListener]
    by_cases hid : id = h.nextId <;> simp [hid]
  servers := hl.servers
  serving := hl.serving
  queued := fun x => by
    rw [queued_setListener, hqueue]
    split
    · rename_i hx
      have hnew : h.queued x = [] := queued_of_absent (hm.inbox?_new (Nat.le_of_eq (hx ▸ rfl)))
      exact hnew.symm.trans (hl.queued x)
    · exact hl.queued x

theorem Listed.serves (hl : h.Listed k) (hm : h.Marked) {url : String}
    (hfree : h.serving.find? url = none) : Listed { h with
      nextId := h.nextId + 1
      servers := h.servers.insert h.nextId { url }
      serving := h.serving.insert url h.nextId }
      { k with servers := (h.nextId, url) :: k.servers } := by
  have hnew : h.inbox? (.server h.nextId) = none := hm.inbox?_new (Nat.le_refl _)
  have hnone : h.servers.find? h.nextId = none := Option.map_eq_none_iff.1 hnew
  refine ⟨hl.listeners, fun id url' => ?_, fun url' id => ?_, fun x => ?_⟩
  · rw [List.mem_cons, hl.servers, Assoc.find?_insert]
    by_cases hid : id = h.nextId
    · simp [hid, hnone, eq_comm]
    · simp [hid]
  · rw [List.mem_cons, ← hl.serving, Assoc.find?_insert]
    by_cases hurl : url' = url
    · simp [hurl, hfree, eq_comm]
    · simp [hurl]
  · refine (queued_setServer h h.nextId { url } x).trans ?_
    split
    · rename_i hx
      exact (queued_of_absent (hx ▸ hnew)).symm.trans (hl.queued x)
    · exact hl.queued x

theorem Listed.begins (hl : h.Listed k) (hb : Begins h d h') : h'.Listed k :=
  hl.of_eq hb.listeners hb.servers hb.serving

theorem queued_handOver (there : (h.inbox? d.target).isSome) (x : Resource) :
    (h.handOver d).queued x = h.queued x ++ if x = d.target then [d.far] else [] := by
  cases d with
  | stream d =>
    have hthere : h.listeners.contains d.listener = true := by
      simpa [Assoc.contains, inbox?, HostDial.target] using there
    refine (queued_queueArrival h d.listener d.far x).trans ?_
    simp only [hthere, and_true]
    rfl
  | channel d =>
    have hthere : h.servers.contains d.server = true := by
      simpa [Assoc.contains, inbox?, HostDial.target] using there
    refine (queued_queueChannel h d.server d.far x).trans ?_
    simp only [hthere, and_true]
    rfl

theorem Listed.hands (hl : h.Listed k) (there : (h.inbox? d.target).isSome) :
    (h.handOver d).Listed (k.waits (some d.target) d.far) where
  listeners := fun id => by
    rw [inbox?_handOver]
    exact hl.listeners id
  servers := fun id url => by
    have hsame : ((h.handOver d).servers.find? id).map Server.url =
        (h.servers.find? id).map Server.url := by
      cases d with
      | stream d => rfl
      | channel d =>
        refine Assoc.map_find?_modify (fun s => ?_) _ _ _
        rfl
    rw [hsame]
    exact hl.servers id url
  serving := fun url id => by
    have hsame : (h.handOver d).serving = h.serving := by cases d <;> rfl
    rw [hsame]
    exact hl.serving url id
  queued := fun x => by
    rw [queued_handOver there, hl.queued]
    exact Ledger.queue_append.symm

theorem Listed.accepts (hl : h.Listed k) {id : Nat} {c : ConnectionHandle}
    (ht : h.takeArrival? id = some (.ok c, h')) :
    h'.Listed (k.takes (.listener id) (.stream c.id)) := by
  obtain ⟨l, arrival, queue, hfound, hq, hanswer, rfl⟩ := takeArrival?_eq_some ht
  obtain ⟨_, hc, rfl⟩ := hanswer.resolve_left fun hboth => nomatch hboth.1
  cases hc
  have hwaited := queued_of_find?_listener hfound
  have hhead : (Arrival.connection c :: queue).filterMap Arrival.resource? =
      .stream c.id :: queue.filterMap Arrival.resource? := rfl
  rw [hq, hhead, hl.queued] at hwaited
  refine ⟨fun n => ?_, hl.servers, hl.serving, fun x => ?_⟩
  · rw [inbox?_setListener]
    refine (hl.listeners n).trans ?_
    by_cases hn : n = id
    · simp [hn, inbox?, hfound]
    · simp [hn]
  · rw [queued_setListener, Ledger.queue_takes, hwaited, List.erase_cons_head, hl.queued]

theorem Listed.refuses_accept (hl : h.Listed k) {id : Nat} {f : HostFailure}
    (ht : h.takeArrival? id = some (.error f, h')) : h'.Listed k := by
  obtain ⟨l, arrival, queue, hfound, hq, hanswer, rfl⟩ := takeArrival?_eq_some ht
  obtain ⟨-, rfl⟩ := hanswer.resolve_right fun ⟨_, hc, _⟩ => nomatch hc
  refine hl.keeps (fun n => ?_) rfl rfl fun x => ?_
  · rw [inbox?_setListener]
    by_cases hn : n = id
    · simp [hn, inbox?, hfound]
    · simp [hn]
  · rw [queued_setListener]
    split
    · rename_i hx
      rw [hx, queued_of_find?_listener hfound, hq]
      rfl
    · rfl

theorem Listed.acceptsChannel (hl : h.Listed k) {id : Nat} {answer : Except HostFailure ChannelHandle}
    (ht : h.takeChannel? id = some (answer, h')) :
    ∃ c, answer = .ok c ∧ h'.Listed (k.takes (.server id) c.resource) := by
  obtain ⟨s, c, queue, hfound, hq, rfl, rfl⟩ := takeChannel?_eq_some ht
  have hwaited := queued_of_find?_server hfound
  rw [hq, List.map_cons, hl.queued] at hwaited
  refine ⟨c, rfl, hl.listeners, fun n url => ?_, hl.serving, fun x => ?_⟩
  · refine (hl.servers n url).trans ?_
    rw [Assoc.find?_insert]
    split
    · rename_i hn
      rw [hn, hfound]
      rfl
    · rfl
  · rw [queued_setServer, Ledger.queue_takes, hwaited, List.erase_cons_head, hl.queued]

theorem Listed.dials (hl : h.Listed k) (ht : h.Tally k.standing) {own : Option NetAddress}
    {peer : NetAddress} {c : ConnectionHandle} (hd : h.dialStream own peer = some (.ok c, h')) :
    h'.Listed (k.waits (k.listenerFor? peer) (.stream (c.id + 1))) := by
  obtain ⟨d, g, hstart, rfl, hthere, rfl⟩ := dialStream_steps hd
  obtain ⟨htarget, hfar⟩ := ht.target_of_start hstart
  rw [htarget, ← hfar]
  exact (hl.begins (begins_stream hstart)).hands hthere

theorem Listed.dialsChannel (hl : h.Listed k) {url : String} {c : ChannelHandle}
    (hd : h.dialChannel url = (.ok c, h')) :
    h'.Listed (k.waits (k.serverFor? url) (.channel (c.id + 1))) := by
  obtain ⟨d, g, hstart, rfl, hthere, rfl⟩ := dialChannel_steps hd
  obtain ⟨htarget, hfar⟩ := hl.target_of_start hstart
  rw [htarget, ← hfar]
  exact (hl.begins (begins_channel hstart)).hands hthere

/-- A request changes the lists by what its answer tells. -/
theorem Listed.answered (hl : h.Listed k) (ht : h.Tally k.standing) (hm : h.Marked)
    {answer : Except HostFailure q.Answer} (hp : h.poll? q = some (answer, h')) :
    h'.Listed (k.queues q answer) := by
  have haside (hmade : ∀ o ∈ q.opened answer, o.resource.kind = .port)
      (htaken : ∀ x, q.waits? = some x → x.kind ≠ .listener ∧ x.kind ≠ .server) : h'.Listed k := by
    obtain ⟨hlisteners, hservers, hserving⟩ := (served_poll? hp).aside hmade fun x n hx => by
      obtain ⟨y, hy, heq⟩ := Option.map_eq_some_iff.1 hx
      cases heq
      exact htaken x hy
    exact hl.of_eq hlisteners hservers hserving
  cases q with
  | listen protocol a =>
    rcases listen_eq_some hp with ⟨f, next, rfl, rfl⟩ | ⟨b, next, rfl, -, rfl, -⟩
    · exact hl.of_eq rfl rfl rfl
    · exact (hl.listens hm _ rfl).of_eq rfl rfl rfl
  | dial protocol own peer =>
    cases protocol with
    | tcp =>
      cases answer with
      | error f => exact haside (by simp [Request.opened]) (by simp [Request.waits?])
      | ok c => exact hl.dials ht hp
    | udp =>
      refine haside (fun o ho => ?_) (by simp [Request.waits?])
      cases answer with
      | error f => cases ho
      | ok c =>
        cases List.mem_singleton.1 ho
        rfl
  | dialChannel url =>
    cases answer with
    | error f => exact haside (by simp [Request.opened]) (by simp [Request.waits?])
    | ok c => exact hl.dialsChannel (Option.some.inj hp)
  | accept l =>
    cases answer with
    | error f => exact hl.refuses_accept hp
    | ok c => exact hl.accepts hp
  | acceptChannel server =>
    obtain ⟨c, rfl, hlisted⟩ := hl.acceptsChannel hp
    exact hlisted
  | bindPort a =>
    refine haside (fun o ho => ?_) (by simp [Request.waits?])
    cases answer with
    | error f => cases ho
    | ok p =>
      cases List.mem_singleton.1 ho
      rfl
  | read c size =>
    refine haside (fun o ho => ?_) fun x hx => ?_
    · rw [Request.opened_of_resource rfl] at ho
      cases ho
    · cases hx
      obtain ⟨protocol, id, own, peer⟩ := c
      cases protocol <;> simp [ConnectionHandle.resource, Resource.kind]
  | resolve | write | sendTo | sendMessage =>
    exact haside (fun o ho => by cases answer <;> cases ho) (by simp [Request.waits?])
  | receiveFrom | receiveMessage =>
    refine haside (fun o ho => by cases answer <;> cases ho) fun x hx => ?_
    cases hx
    simp [PortHandle.resource, ChannelHandle.resource, Resource.kind]

/-! ### Moves in the ledger -/

/-- What is open in the ledger holds the slots of the host, and its lists are those of the host. -/
structure Balances (h : InProcessHost) (k : Ledger) : Prop where
  tally : h.Tally k.standing
  registered : h.Registered
  marked : h.Marked
  listed : h.Listed k

theorem balances_start (rule : SlotRule) : Balances { slots := { rule } } {} where
  tally := tally_start_of_rule rule
  registered := registered_start_of_rule rule
  marked := marked_start_of_rule rule
  listed := ⟨fun _ => by simp [inbox?], fun _ _ => by simp, fun _ _ => by simp,
    fun x => by cases x <;> rfl⟩

theorem tally_act (ht : h.Tally k.standing) (hl : h.Listed k) (a : HostAct) :
    (h.act a).Tally (k.act h a).standing := by
  cases a with
  | request q =>
    cases hp : h.poll? q with
    | none =>
      rw [act_request_of_none hp]
      simpa only [Ledger.act, hp] using ht
    | some result =>
      rw [act_request hp]
      simp only [Ledger.act, hp]
      exact ht.brings (brings_poll? hp)
  | close x => exact ht.closes x
  | drop x =>
    have hdrops := ht.drops x
    rw [hl.queued] at hdrops
    exact hdrops
  | serve url =>
    have hserved := ht.brings (brings_serve h url)
    rcases serve_cases h url with hserve | ⟨-, hserve⟩ <;>
      · simp only [Ledger.act, hserve]
        exact hserved
  | addName | log | takeLogs => exact ht.brings (.aside h _ _)

theorem listed_act (ht : h.Tally k.standing) (hm : h.Marked) (hl : h.Listed k) (a : HostAct) :
    (h.act a).Listed (k.act h a) := by
  cases a with
  | request q =>
    cases hp : h.poll? q with
    | none =>
      rw [act_request_of_none hp]
      simpa only [Ledger.act, hp] using hl
    | some result =>
      rw [act_request hp]
      simp only [Ledger.act, hp]
      exact (hl.answered ht hm hp).same rfl rfl rfl
  | close x => exact (hl.closes x).same rfl rfl rfl
  | drop x => exact hl.drops x
  | serve url =>
    change (h.serve url).2.Listed _
    rcases serve_cases h url with hserve | ⟨hfree, hserve⟩
    · simpa only [Ledger.act, hserve] using hl
    · simpa only [Ledger.act, hserve] using hl.serves hm hfree
  | addName | log | takeLogs => exact hl.of_eq rfl rfl rfl

theorem Balances.act (hb : h.Balances k) (a : HostAct) : (h.act a).Balances (k.act h a) where
  tally := tally_act hb.tally hb.listed a
  registered := hb.registered.act a
  marked := hb.marked.act a
  listed := listed_act hb.tally hb.marked hb.listed a

theorem Balances.begins (hb : h.Balances k) (hbegins : Begins h d h') :
    h'.Balances (k.begins (some d.target) d.far d.near) where
  tally := hb.tally.brings hbegins.brings
  registered := hb.registered.begins hbegins
  marked := hb.marked.keeps hbegins.inboxes
  listed := (hb.listed.begins hbegins).same rfl rfl rfl

theorem Balances.hands (hb : h.Balances k) (there : (h.inbox? d.target).isSome) :
    (h.handOver d).Balances (k.waits (some d.target) d.far) where
  tally := hb.tally.brings (brings_handOver h d)
  registered := hb.registered.hands d
  marked := hb.marked.hands d
  listed := hb.listed.hands there

/-- The second step of a dial, where it succeeds and where both sides are dropped. -/
theorem Balances.delivers (hb : h.Balances k) (d : HostDial) :
    (d.deliver h).Balances (k.hands d.underway) := by
  have hthere : k.isThere d.underway.target = (h.inbox? d.target).isSome := hb.listed.isThere d
  rw [Ledger.hands, hthere]
  rcases deliver_cases h d with ⟨there, hok⟩ | ⟨hgone, hfails⟩
  · rw [if_pos there, hok]
    exact hb.hands there
  · -- both sides go as if they had been dropped by the callers, the far one first
    rw [if_neg (by simp [hgone]), hfails]
    exact (hb.act (.drop d.far)).act (.drop d.near)

theorem Balances.same {k' : Ledger} (hb : h.Balances k) (standing : k'.standing = k.standing)
    (listeners : k'.listeners = k.listeners) (servers : k'.servers = k.servers)
    (waiting : k'.waiting = k.waiting) : h.Balances k' :=
  ⟨standing.symm ▸ hb.tally, hb.registered, hb.marked, hb.listed.same listeners servers waiting⟩

/-- A move keeps the balance, and the dials under way are those of the ledger. -/
theorem Balances.move {s : BusyHost} (hb : s.host.Balances k)
    (hd : k.dials = s.dials.map HostDial.underway) (m : HostMove) :
    (s.move m).host.Balances (k.move s m) ∧
      (k.move s m).dials = (s.move m).dials.map HostDial.underway := by
  have hmore (d : HostDial) : (k.begins (some d.target) d.far d.near).dials =
      (s.dials ++ [d]).map HostDial.underway := by
    rw [List.map_append, ← hd]
    rfl
  cases m with
  | act a => exact ⟨hb.act a, (Ledger.dials_act k s.host a).trans hd⟩
  | beginStream own peer =>
    simp only [BusyHost.move, Ledger.move]
    cases hstart : s.host.startStream? own peer with
    | none => exact ⟨hb, hd⟩
    | some started =>
      obtain ⟨started, host⟩ := started
      cases started with
      | error f =>
        rcases startStream?_eq_some hstart with ⟨-, -, rfl⟩ | ⟨_, _, _, -, -, hd', -⟩
        · exact ⟨hb, hd⟩
        · cases hd'
      | ok d =>
        dsimp only
        rw [(hb.tally.target_of_start hstart).1]
        exact ⟨hb.begins (begins_stream hstart), hmore (.stream d)⟩
  | beginChannel url =>
    simp only [BusyHost.move, Ledger.move]
    rcases startChannel_cases s.host url with ⟨-, hstart⟩ | ⟨server, -, hstart⟩
    · rw [hstart]
      exact ⟨hb, hd⟩
    · have hbegins := begins_channel hstart
      have htarget := (hb.listed.target_of_start hstart).1
      rw [hstart]
      dsimp only
      rw [htarget]
      exact ⟨hb.begins hbegins, hmore (.channel _)⟩
  | deliver i =>
    simp only [BusyHost.move, Ledger.move, hd, List.getElem?_map]
    cases hi : s.dials[i]? with
    | none => exact ⟨hb, hd⟩
    | some d =>
      simp only [Option.map_some]
      exact ⟨(hb.delivers d).same rfl rfl rfl rfl, List.eraseIdx_map ..⟩

theorem Balances.run {s : BusyHost} (hb : s.host.Balances k)
    (hd : k.dials = s.dials.map HostDial.underway) (moves : List HostMove) :
    (s.run moves).host.Balances (k.run s moves) := by
  induction moves generalizing s k with
  | nil => exact hb
  | cons m moves ih =>
    obtain ⟨hmoved, hdials⟩ := hb.move hd m
    exact ih hmoved hdials

/-- After any moves, failed ones and dials under way included, whichever slots are handed out, the
host holds as many slots as resources were opened that were neither closed nor dropped, and each of
those holds one of its own. The registries have the addresses of the open listeners and of the open
datagram ports and no others, so that a listener or a port can be opened at an address that names
its port unless an open one of its kind has it. A closing of what is not open changes nothing; so a
closing or a dropping of a resource that was closed or dropped before changes nothing, whatever was
done in between. -/
theorem live_resources_exact (rule : SlotRule) (moves : List HostMove) :
    let start : BusyHost := { host := { slots := { rule } } }
    let s := start.run moves
    let h := s.host
    let standing := (Ledger.run {} start moves).standing
    (h.live.length = standing.length ∧ h.live.Nodup ∧ List.Forall₂ h.Holds standing h.live) ∧
    (∀ a id, h.listening.find? a = some id ↔ ⟨.listener id, some a⟩ ∈ standing) ∧
    (∀ a id, h.bound.find? a = some id ↔ ⟨.port id, some a⟩ ∈ standing) ∧
    (∀ a : NetAddress, a.port ≠ 0 →
      (h.poll? (.listen .tcp a)).map Prod.fst =
        some (if inUse standing .listener a then .error .addressInUse else .ok ⟨h.nextId, a⟩) ∧
      (h.poll? (.bindPort a)).map Prod.fst =
        some (if inUse standing .port a then .error .addressInUse else .ok ⟨h.nextId, a⟩) ∧
      ∀ peer, (h.poll? (.dial .udp (some a) peer)).map Prod.fst =
        some (if inUse standing .port a then .error .addressInUse
          else .ok ⟨.udp, h.nextId, a, peer⟩)) ∧
    (∀ x, (∀ a, ⟨x, a⟩ ∉ standing) → h.close x = h) ∧
    ∀ (x : Resource) (first : HostAct), x.number < h.nextId →
      (first = .close x ∨ first = .drop x) → ∀ later : List HostMove,
        let g := ((s.move (.act first)).run later).host
        g.close x = g ∧ (first = .drop x → g.drop x = g) := by
  intro start s h standing
  have hb : h.Balances (Ledger.run {} start moves) := (balances_start rule).run rfl moves
  have ht := hb.tally
  refine ⟨⟨ht.live.length_eq.symm, h.slots.nodup, ht.live⟩, ht.listening, ht.bound hb.registered,
    fun a ha => ⟨?_, ?_, fun peer => ?_⟩, fun x hx => ?_, fun x first hx hfirst later => ⟨?_, ?_⟩⟩
  · rw [listen_answer ha, ht.listening_contains]
  · rw [bindPort_answer ha, ht.bound_contains hb.registered]
  · rw [dialDatagram_answer ha, ht.bound_contains hb.registered]
  · exact close_eq_self fun a => mt (ht.stands _).2 (hx a)
  · cases x with
    | server => rfl
    | listener | stream | port | channel =>
      have hshut := shut_after (by simp) hx hfirst
      exact (Shut.run (s := s.move (.act first)) hshut later).close_eq_self
  · rintro rfl
    exact (Gone.run (s := s.move (.act (.drop x))) (gone_drop hx) later).drop_eq_self

/-- A second listener is at the address of one that was closed, and in its slot. Then the first one
is closed again. -/
theorem closed_again_beside_second :
    let a : NetAddress := ⟨.v4 .loopback, 7001⟩
    let earlier : List HostMove := [.act (.request (.listen .tcp a)), .beginStream none a, .deliver 0]
    let later : List HostMove := [.act (.request (.listen .tcp a)), .act (.close (.stream 1))]
    let moves := earlier ++ .act (.close (.listener 0)) :: later
    let h := (BusyHost.run {} moves).host
    (Ledger.run {} {} moves).standing = [⟨.listener 3, some a⟩, ⟨.stream 2, none⟩] ∧
      h.live = [0, 2] ∧ h.Holds ⟨.listener 3, some a⟩ 0 ∧
      (h.poll? (.listen .tcp a)).map Prod.fst = some (.error .addressInUse) ∧
      (h.poll? (.bindPort a)).map Prod.fst = some (.ok ⟨4, a⟩) ∧
      h.close (.listener 0) = h ∧ h.listening.find? a = some 3 := by
  intro a earlier later moves h
  have hstanding : (Ledger.run {} {} moves).standing =
      [⟨.listener 3, some a⟩, ⟨.stream 2, none⟩] := by decide +kernel
  have hlive : h.live = [0, 2] := by decide +kernel
  have hgiven : Resource.number (.listener 0) < (BusyHost.run {} earlier).host.nextId := by
    decide +kernel
  obtain ⟨⟨-, -, hholds⟩, hlistening, -, hanswers, -⟩ := live_resources_exact .lastFreed moves
  obtain ⟨hlisten, hbind, -⟩ := hanswers a (by decide)
  obtain ⟨-, -, -, -, -, hagain⟩ := live_resources_exact .lastFreed earlier
  have hclosed := (hagain (.listener 0) _ hgiven (Or.inl rfl) later).1
  have hrun : h = (((BusyHost.run {} earlier).move (.act (.close (.listener 0)))).run later).host := by
    simp only [h, moves, BusyHost.run, List.foldl_append, List.foldl_cons]
  rw [hstanding] at hholds hlistening hlisten hbind
  have hslot := (List.forall₂_cons.1 (hlive ▸ hholds)).1
  refine ⟨hstanding, hlive, hslot, hlisten, hbind, ?_, (hlistening a 3).2 List.mem_cons_self⟩
  rw [hrun]
  exact hclosed

/-- With a listener goes what waits at it; the near side is left. -/
example : (BusyHost.run {} [.act (.request (.listen .tcp ⟨.v4 .loopback, 7001⟩)),
    .act (.request (.dial .tcp none ⟨.v4 .loopback, 7001⟩)),
    .act (.drop (.listener 0))]).host.live = [1] := by decide +kernel

/-- A dial whose listener is dropped before its second step leaves nothing. -/
example : (BusyHost.run {} [.act (.request (.listen .tcp ⟨.v4 .loopback, 7001⟩)),
    .beginStream none ⟨.v4 .loopback, 7001⟩, .act (.drop (.listener 0)),
    .deliver 0]).host.live = [] := by decide +kernel

end InProcessHost

end SyscallBridge
