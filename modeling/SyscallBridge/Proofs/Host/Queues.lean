import SyscallBridge.Proofs.Host.Inbox
import SyscallBridge.Proofs.Host.Kinds

/-!
# Queues of listeners and servers

What waits in the queue of a listener or a server is the far side of a dial. So a resource that is
no such far side waits nowhere, and what is dropped with a listener or a server is none of those
that the callers hold.
-/

namespace SyscallBridge.InProcessHost

open InProcess

variable {h h' : InProcessHost} {x y : Resource}

theorem queued_of_eq {x : Resource} (listeners : h'.listeners = h.listeners)
    (servers : h'.servers = h.servers) : h'.queued x = h.queued x := by
  cases x <;> simp only [queued, listeners, servers]

/-! ### One queue is changed -/

theorem queued_setListener (h : InProcessHost) (id : Nat) (l : Listener) (y : Resource) :
    queued { h with listeners := h.listeners.insert id l } y =
      if y = .listener id then l.queue.filterMap Arrival.resource? else h.queued y := by
  cases y with
  | listener n =>
    simp only [queued, Assoc.find?_insert, Resource.listener.injEq]
    split <;> rfl
  | stream | port | channel | server => exact (if_neg (by simp)).symm

theorem queued_setServer (h : InProcessHost) (id : Nat) (s : Server) (y : Resource) :
    queued { h with servers := h.servers.insert id s } y =
      if y = .server id then s.queue.map ChannelHandle.resource else h.queued y := by
  cases y with
  | server n =>
    simp only [queued, Assoc.find?_insert, Resource.server.injEq]
    split <;> rfl
  | listener | stream | port | channel => exact (if_neg (by simp)).symm

theorem queued_of_find?_listener {id : Nat} {l : Listener} (hl : h.listeners.find? id = some l) :
    h.queued (.listener id) = l.queue.filterMap Arrival.resource? := by
  simp only [queued, hl, Option.map_some, Option.getD_some]

theorem queued_of_find?_server {id : Nat} {s : Server} (hs : h.servers.find? id = some s) :
    h.queued (.server id) = s.queue.map ChannelHandle.resource := by
  simp only [queued, hs, Option.map_some, Option.getD_some]

/-- Nothing waits at what is not there. -/
theorem queued_of_absent (hx : h.inbox? x = none) : h.queued x = [] := by
  cases x with
  | listener id =>
    have hnone : h.listeners.find? id = none := Option.map_eq_none_iff.1 hx
    simp only [queued, hnone, Option.map_none, Option.getD_none]
  | server id =>
    have hnone : h.servers.find? id = none := Option.map_eq_none_iff.1 hx
    simp only [queued, hnone, Option.map_none, Option.getD_none]
  | stream | port | channel => rfl

theorem queued_queueArrival (h : InProcessHost) (n : Nat) (c : ConnectionHandle) (x : Resource) :
    queued { h with
      listeners := h.listeners.modify n fun l => { l with
        queue := l.queue ++ [.connection c] } } x =
      h.queued x ++ if x = .listener n ∧ h.listeners.contains n = true then [.stream c.id]
        else [] := by
  cases x with
  | listener id =>
    simp only [queued, Assoc.find?_modify, Assoc.contains, Resource.listener.injEq]
    by_cases hid : id = n
    · subst hid
      cases h.listeners.find? id <;> simp [Arrival.resource?]
    · simp [hid]
  | stream | port | channel | server => simp [queued]

theorem queued_queueChannel (h : InProcessHost) (n : Nat) (c : ChannelHandle) (x : Resource) :
    queued { h with
      servers := h.servers.modify n fun s => { s with queue := s.queue ++ [c] } } x =
      h.queued x ++ if x = .server n ∧ h.servers.contains n = true then [c.resource] else [] := by
  cases x with
  | server id =>
    simp only [queued, Assoc.find?_modify, Assoc.contains, Resource.server.injEq]
    by_cases hid : id = n
    · subst hid
      cases h.servers.find? id <;> simp
    · simp [hid]
  | listener | stream | port | channel => simp [queued]

/-! ### Requests -/

/-- What stands in a queue after a request stood there before, or it is the far side of what the
request dialed. -/
theorem Served.queued {q : Request} {made : List Opening} {taken : Option (Resource × Nat)}
    (hs : Served h q made taken h') (hy : y ∈ h'.queued x) :
    y ∈ h.queued x ∨ y.number = h.nextId + 1 ∧ h'.nextId = h.nextId + 2 := by
  have hback {l : List Resource} (heq : h'.queued x = l) : y ∈ l := heq ▸ hy
  cases hs with
  | nothing | searches | opensPort | undials | undialsChannel | writes | sends | sendsMessage | reads
  | receives | receivesMessage => exact Or.inl (queued_of_eq rfl rfl ▸ hy)
  | listens =>
    have hy := hback (queued_setListener h h.nextId _ x)
    split at hy
    · cases hy
    · exact Or.inl hy
  | @dials a next l c asks kind far =>
    have hy := hback (queued_queueArrival h l c x)
    rcases List.mem_append.1 hy with hy | hy
    · exact Or.inl hy
    · split at hy
      · cases List.mem_singleton.1 hy
        exact Or.inr ⟨far, rfl⟩
      · cases hy
  | @dialsChannel server c kind far =>
    have hy := hback (queued_queueChannel h server c x)
    rcases List.mem_append.1 hy with hy | hy
    · exact Or.inl hy
    · split at hy
      · cases List.mem_singleton.1 hy
        exact Or.inr ⟨far, rfl⟩
      · cases hy
  | @accepts id n l queue found count rest =>
    have hy := hback (queued_setListener h id _ x)
    split at hy
    · rename_i hx
      rw [hx, queued_of_find?_listener found]
      exact Or.inl (List.filterMap_subset _ rest hy)
    · exact Or.inl hy
  | @acceptsChannel id s queue found rest =>
    have hy := hback (queued_setServer h id _ x)
    split at hy
    · rename_i hx
      rw [hx, queued_of_find?_server found]
      exact Or.inl (List.map_subset _ rest hy)
    · exact Or.inl hy

theorem queued_close (h : InProcessHost) (z x : Resource) :
    (h.close z).queued x = h.queued x := by
  cases z with
  | listener id =>
    change (h.closeListener id).queued x = _
    unfold closeListener
    split
    · rfl
    · rename_i l hl
      split
      · rfl
      · refine (queued_setListener h id _ x).trans ?_
        split
        · rename_i hx
          simp [hx, queued_of_find?_listener hl, Arrival.resource?]
        · rfl
  | stream id =>
    change (h.closeStream id).queued x = _
    unfold closeStream
    split
    · rfl
    · split
      · rfl
      · exact queued_of_eq rfl rfl
  | port id =>
    change (h.closePort id).queued x = _
    unfold closePort
    split
    · rfl
    · split
      · rfl
      · exact queued_of_eq rfl rfl
  | channel id =>
    change (h.closeChannel id).queued x = _
    unfold closeChannel
    split
    · rfl
    · split
      · rfl
      · exact queued_of_eq rfl rfl
  | server => rfl

theorem queued_forget (h : InProcessHost) (z x : Resource) :
    (h.forget z).queued x = if x = z then [] else h.queued x := by
  cases z with
  | listener id =>
    cases x with
    | listener m =>
      simp only [queued, forget, Assoc.find?_erase, Resource.listener.injEq]
      split <;> rfl
    | stream | port | channel | server => exact (if_neg (by simp)).symm
  | server id =>
    cases x with
    | server m =>
      simp only [queued, forget, Assoc.find?_erase, Resource.server.injEq]
      split <;> rfl
    | listener | stream | port | channel => exact (if_neg (by simp)).symm
  | stream | port | channel =>
    split
    · rename_i hx
      subst hx
      rfl
    · cases x <;> rfl

theorem queued_of_discard {z : Resource} (hy : y ∈ (h.discard z).queued x) : y ∈ h.queued x := by
  rw [discard, queued_forget] at hy
  split at hy
  · cases hy
  · exact queued_close h z x ▸ hy

/-- What stands in a queue after an act stood there before, or it is the far side of what the act
dialed. -/
theorem queued_of_act {a : HostAct} (hy : y ∈ (h.act a).queued x) :
    y ∈ h.queued x ∨ y.number = h.nextId + 1 ∧ (h.act a).nextId = h.nextId + 2 := by
  cases a with
  | request q =>
    cases hp : h.poll? q with
    | none =>
      rw [act_request_of_none hp] at hy
      exact Or.inl hy
    | some result =>
      rw [act_request hp] at hy ⊢
      exact (served_poll? hp).queued hy
  | close z => exact Or.inl (queued_close h z x ▸ hy)
  | drop z =>
    refine Or.inl (drop_induct (motive := fun g => ∀ y ∈ g.queued x, y ∈ h.queued x) z ?_ ?_ y hy)
    · exact fun y hy => queued_of_discard hy
    · exact fun w _ g hg y hy => hg y (queued_of_discard hy)
  | serve url =>
    change y ∈ (h.serve url).2.queued x at hy
    rcases serve_cases h url with hserve | ⟨-, hserve⟩
    · rw [hserve] at hy
      exact Or.inl hy
    · rw [hserve] at hy
      have hset : y ∈ queued { h with servers := h.servers.insert h.nextId { url } } x := hy
      rw [queued_setServer] at hset
      split at hset
      · cases hset
      · exact Or.inl hset
  | addName | log | takeLogs => exact Or.inl (queued_of_eq rfl rfl ▸ hy)

/-- What stands in queues has numbers that were given out. -/
theorem number_of_queued (hh : ∀ x, ∀ y ∈ h.queued x, y.number < h.nextId) (l : List HostAct) :
    ∀ x, ∀ y ∈ (h.acts l).queued x, y.number < (h.acts l).nextId := by
  induction l generalizing h with
  | nil => exact hh
  | cons a l ih =>
    refine ih fun x y hy => ?_
    have hnext := (spares_act h a).nextId
    rcases queued_of_act hy with hy | ⟨hnumber, hgiven⟩
    · have := hh x y hy
      omega
    · omega

theorem queued_start (x : Resource) : ({} : InProcessHost).queued x = [] := by cases x <;> rfl

/-! ### What waits nowhere -/

structure Unqueued (y : Resource) (h : InProcessHost) : Prop where
  old : y.number < h.nextId
  nowhere : ∀ x, y ∉ h.queued x

theorem Unqueued.act (hu : Unqueued y h) (a : HostAct) : Unqueued y (h.act a) := by
  have hold := hu.old
  refine ⟨Nat.lt_of_lt_of_le hold (spares_act h a).nextId, fun x hy => ?_⟩
  rcases queued_of_act hy with hy | ⟨hnumber, -⟩
  · exact hu.nowhere x hy
  · omega

theorem Unqueued.acts (hu : Unqueued y h) (l : List HostAct) : Unqueued y (h.acts l) := by
  induction l generalizing h with
  | nil => exact hu
  | cons a l ih => exact ih (hu.act a)

/-- The near side of a dial waits nowhere. -/
theorem unqueued_near (earlier : List HostAct) {q : Request} (near : Resource)
    (hnear : near.number = (acts {} earlier).nextId)
    (hgiven : near.number < ((acts {} earlier).act (.request q)).nextId) :
    Unqueued near ((acts {} earlier).act (.request q)) := by
  refine ⟨hgiven, fun x hy => ?_⟩
  rcases queued_of_act hy with hy | ⟨hnumber, -⟩
  · have := number_of_queued (h := {}) (by simp [queued_start]) earlier x near hy
    omega
  · omega

end SyscallBridge.InProcessHost
