import SyscallBridge.Proofs.Host.Inbox

/-!
# Closed resources

A resource that is closed stays closed as long as it is there, and a request that would wait for it
is refused. Only a closing puts its mark in a queue, so a mark tells that the resource is closed.
-/

namespace SyscallBridge.InProcessHost

open InProcess

variable {h h' : InProcessHost} {x : Resource}

/-- What every act on the inboxes keeps is kept by every act on the host: an act leaves the inboxes
alone but for new ones, takes from one of them, or closes some and may then forget them. -/
theorem act_inboxes_induct {motive : InProcessHost → Prop} (start : motive h)
    (keeps : ∀ g g', KeepsInboxes g g' → motive g → motive g')
    (takes : ∀ g g' x n, Takes g g' x n → motive g → motive g')
    (closes : ∀ g x, (∀ id, x ≠ .server id) → motive g → motive (g.close x))
    (forgets : ∀ g x, motive g → motive (g.forget x)) (a : HostAct) : motive (h.act a) := by
  have hclose (g : InProcessHost) (x : Resource) (hg : motive g) : motive (g.close x) := by
    cases x with
    | server => exact hg
    | listener | stream | port | channel => exact closes g _ (by simp) hg
  have hdiscard (g : InProcessHost) (x : Resource) (hg : motive g) : motive (g.discard x) :=
    forgets _ x (hclose g x hg)
  cases a with
  | request q =>
    refine act_request_induct q start fun answer h' hp => ?_
    cases hx : q.waits? with
    | none => exact keeps h h' (keepsInboxes_poll? hx hp) start
    | some x => exact takes h h' x _ (takes_poll? hx hp) start
  | close x => exact hclose h x start
  | drop x => exact drop_induct x (hdiscard h x start) fun y _ g hg => hdiscard g y hg
  | serve url => exact keeps h _ (keepsInboxes_serve h url) start
  | addName | log | takeLogs =>
    exact keeps h _ (keepsInboxes_of_eq (Nat.le_refl _) fun x => by cases x <;> rfl) start

/-! ### Marks -/

/-- The resources that are there have numbers that were given out, and the open ones have no mark
of a closing in their queues. -/
structure Marked (h : InProcessHost) : Prop where
  numbered : ∀ x b, h.inbox? x = some b → x.number < h.nextId
  closed : ∀ x b, h.inbox? x = some b → 0 < b.aborts → b.closed = true

theorem marked_start_of_rule (rule : SlotRule) : Marked { slots := { rule } } := by
  have hnone (x : Resource) : inbox? { slots := { rule } } x = none := by cases x <;> rfl
  refine ⟨fun x b hb => ?_, fun x b hb => ?_⟩ <;>
    · rw [hnone] at hb
      cases hb

theorem marked_start : Marked {} := marked_start_of_rule .lastFreed

/-- A new number has nothing yet. -/
theorem Marked.inbox?_new (hm : h.Marked) (hx : h.nextId ≤ x.number) : h.inbox? x = none := by
  cases hb : h.inbox? x with
  | none => rfl
  | some b => exact absurd (hm.numbered x b hb) (Nat.not_lt_of_le hx)

theorem Marked.keeps (hm : h.Marked) (hk : KeepsInboxes h h') : h'.Marked := by
  have hnext := hk.nextId
  refine ⟨fun x b hb => ?_, fun x b hb hmark => ?_⟩
  · rcases hk.inboxes x with heq | ⟨-, hlt, -⟩
    · have := hm.numbered x b (heq ▸ hb)
      omega
    · exact hlt
  · rcases hk.inboxes x with heq | ⟨-, -, hnew⟩
    · exact hm.closed x b (heq ▸ hb) hmark
    · have hnone := (hnew b hb).2.1
      omega

theorem Marked.takes (hm : h.Marked) {n : Nat} (ht : Takes h h' x n) : h'.Marked := by
  obtain ⟨hnext, hothers, b, hb', hb⟩ := ht
  refine ⟨fun y c hc => ?_, fun y c hc hmark => ?_⟩
  · rw [hnext]
    by_cases hy : y = x
    · exact hy ▸ hm.numbered x _ hb
    · exact hm.numbered y c (hothers y hy ▸ hc)
  · by_cases hy : y = x
    · -- a mark that is left in the queue was there before something was taken
      obtain rfl : b = c := Option.some.inj (hb'.symm.trans (hy ▸ hc))
      have hclosed := hm.closed x _ hb (Nat.lt_add_right n hmark)
      exact hclosed
    · exact hm.closed y c (hothers y hy ▸ hc) hmark

theorem Marked.closes (hm : h.Marked) (hx : ∀ id, x ≠ .server id) : (h.close x).Marked := by
  have hclose := inbox?_close (h := h) hx
  refine ⟨fun y c hc => ?_, fun y c hc hmark => ?_⟩
  · rw [nextId_close]
    rw [hclose] at hc
    split at hc
    · rename_i hy
      obtain ⟨b, hb, -⟩ := Option.map_eq_some_iff.1 hc
      exact hy ▸ hm.numbered x b hb
    · exact hm.numbered y c hc
  · rw [hclose] at hc
    split at hc
    · obtain ⟨b, -, rfl⟩ := Option.map_eq_some_iff.1 hc
      exact b.shut_closed
    · exact hm.closed y c hc hmark

theorem inbox?_of_forget {y : Resource} {b : Inbox} (hb : (h.forget x).inbox? y = some b) :
    h.inbox? y = some b := by
  rw [inbox?_forget] at hb
  split at hb
  · cases hb
  · exact hb

theorem Marked.forgets (hm : h.Marked) (x : Resource) : (h.forget x).Marked := by
  refine ⟨fun y b hb => ?_, fun y b hb hmark => ?_⟩
  · rw [nextId_forget]
    exact hm.numbered y b (inbox?_of_forget hb)
  · exact hm.closed y b (inbox?_of_forget hb) hmark

theorem Marked.act (hm : h.Marked) (a : HostAct) : (h.act a).Marked :=
  act_inboxes_induct hm (fun _ _ hk hm => hm.keeps hk) (fun _ _ _ _ ht hm => hm.takes ht)
    (fun _ _ hx hm => hm.closes hx) (fun _ x hm => hm.forgets x) a

theorem Marked.acts (hm : h.Marked) (l : List HostAct) : (h.acts l).Marked := by
  induction l generalizing h with
  | nil => exact hm
  | cons a l ih => exact ih (hm.act a)

/-! ### Closed for good -/

/-- A resource that was there once is closed, or not there any more. -/
structure Shut (x : Resource) (h : InProcessHost) : Prop where
  old : x.number < h.nextId
  closed : ∀ b, h.inbox? x = some b → b.closed = true

theorem Shut.keeps (hs : Shut x h) (hk : KeepsInboxes h h') : Shut x h' := by
  have hold := hs.old
  refine ⟨Nat.lt_of_lt_of_le hold hk.nextId, fun b hb => ?_⟩
  rcases hk.inboxes x with heq | ⟨hle, -⟩
  · exact hs.closed b (heq ▸ hb)
  · omega

theorem Shut.takes (hs : Shut x h) {y : Resource} {n : Nat} (ht : Takes h h' y n) : Shut x h' := by
  obtain ⟨hnext, hothers, b, hb', hb⟩ := ht
  refine ⟨hnext.symm ▸ hs.old, fun c hc => ?_⟩
  by_cases hx : x = y
  · obtain rfl : b = c := Option.some.inj (hb'.symm.trans (hx ▸ hc))
    have hclosed := hs.closed _ (hx ▸ hb)
    exact hclosed
  · exact hs.closed c (hothers x hx ▸ hc)

theorem Shut.closes (hs : Shut x h) {y : Resource} (hy : ∀ id, y ≠ .server id) :
    Shut x (h.close y) := by
  refine ⟨(nextId_close h y).symm ▸ hs.old, fun c hc => ?_⟩
  rw [inbox?_close hy] at hc
  split at hc
  · obtain ⟨b, -, rfl⟩ := Option.map_eq_some_iff.1 hc
    exact b.shut_closed
  · exact hs.closed c hc

theorem Shut.forgets (hs : Shut x h) (y : Resource) : Shut x (h.forget y) :=
  ⟨(nextId_forget h y).symm ▸ hs.old, fun b hb => hs.closed b (inbox?_of_forget hb)⟩

theorem Shut.act (hs : Shut x h) (a : HostAct) : Shut x (h.act a) :=
  act_inboxes_induct hs (fun _ _ hk hs => hs.keeps hk) (fun _ _ _ _ ht hs => hs.takes ht)
    (fun _ _ hy hs => hs.closes hy) (fun _ y hs => hs.forgets y) a

theorem Shut.acts (hs : Shut x h) (l : List HostAct) : Shut x (h.acts l) := by
  induction l generalizing h with
  | nil => exact hs
  | cons a l ih => exact ih (hs.act a)

theorem Marked.shut_close (hm : h.Marked) (hx : ∀ id, x ≠ .server id)
    (there : (h.inbox? x).isSome) : Shut x (h.close x) := by
  obtain ⟨b, hb⟩ := Option.isSome_iff_exists.1 there
  refine ⟨(nextId_close h x).symm ▸ hm.numbered x b hb, fun c hc => ?_⟩
  rw [inbox?_close hx, if_pos rfl] at hc
  obtain ⟨b, -, rfl⟩ := Option.map_eq_some_iff.1 hc
  exact b.shut_closed

theorem refuses_eq {q : Request} (hq : q.waits? = some x) : h.refuses q = h.isClosed x := by
  rw [refuses, hq, Option.any_some]

/-- What is asked of a closed resource is refused at once, and the host stays as it is. -/
theorem Shut.answer? (hs : Shut x h) (there : (h.inbox? x).isSome) {q : Request}
    (hq : q.waits? = some x) : h.answer? q = some (.error .aborted, h) := by
  obtain ⟨b, hb⟩ := Option.isSome_iff_exists.1 there
  have hrefused : h.refuses q = true := by
    rw [refuses_eq hq, isClosed_eq, hb, Option.any_some, hs.closed b hb]
  rw [InProcessHost.answer?, if_pos hrefused]

/-- Who is told of a closing finds the resource closed. -/
theorem Marked.shut_told (hm : h.Marked) {q : Request} (hq : q.waits? = some x)
    (hp : h.poll? q = some (.error .aborted, h')) : Shut x h' := by
  obtain ⟨hnext, -, b, hb', hb⟩ := takes_poll? hq hp
  have hclosed := hm.closed x _ hb (Nat.succ_pos _)
  refine ⟨hnext.symm ▸ hm.numbered x _ hb, fun c hc => ?_⟩
  obtain rfl : b = c := Option.some.inj (hb'.symm.trans hc)
  exact hclosed

/-! ### Gone for good -/

/-- A resource that was there once and is there no more. -/
structure Gone (x : Resource) (h : InProcessHost) : Prop where
  old : x.number < h.nextId
  absent : h.inbox? x = none

theorem Gone.shut (hg : Gone x h) : Shut x h := by
  refine ⟨hg.old, fun b hb => ?_⟩
  rw [hg.absent] at hb
  cases hb

theorem Gone.keeps (hg : Gone x h) (hk : KeepsInboxes h h') : Gone x h' := by
  have hold := hg.old
  refine ⟨Nat.lt_of_lt_of_le hold hk.nextId, ?_⟩
  rcases hk.inboxes x with heq | ⟨hle, -⟩
  · exact heq.trans hg.absent
  · omega

theorem Gone.takes (hg : Gone x h) {y : Resource} {n : Nat} (ht : Takes h h' y n) : Gone x h' := by
  obtain ⟨hnext, hothers, b, -, hb⟩ := ht
  refine ⟨hnext.symm ▸ hg.old, (hothers x ?_).trans hg.absent⟩
  rintro rfl
  rw [hg.absent] at hb
  cases hb

theorem Gone.closes (hg : Gone x h) {y : Resource} (hy : ∀ id, y ≠ .server id) :
    Gone x (h.close y) := by
  refine ⟨(nextId_close h y).symm ▸ hg.old, ?_⟩
  rw [inbox?_close hy]
  split
  · rename_i hx
    rw [← hx, hg.absent, Option.map_none]
  · exact hg.absent

theorem Gone.forgets (hg : Gone x h) (y : Resource) : Gone x (h.forget y) := by
  refine ⟨(nextId_forget h y).symm ▸ hg.old, ?_⟩
  rw [inbox?_forget, hg.absent]
  split <;> rfl

theorem Gone.act (hg : Gone x h) (a : HostAct) : Gone x (h.act a) :=
  act_inboxes_induct hg (fun _ _ hk hg => hg.keeps hk) (fun _ _ _ _ ht hg => hg.takes ht)
    (fun _ _ hy hg => hg.closes hy) (fun _ y hg => hg.forgets y) a

theorem Gone.discards (hg : Gone x h) (y : Resource) : Gone x (h.discard y) :=
  (hg.act (.close y)).forgets y

theorem gone_discard (hx : x.number < h.nextId) : Gone x (h.discard x) :=
  ⟨(nextId_discard h x).symm ▸ hx, (inbox?_forget _ x x).trans (if_pos rfl)⟩

theorem gone_drop (hx : x.number < h.nextId) : Gone x (h.drop x) :=
  drop_induct (motive := Gone x) x (gone_discard hx) fun y _ _ hg => hg.discards y

theorem gone_discard_all {l : List Resource} (hx : x ∈ l) (hold : x.number < h.nextId) :
    Gone x (l.foldl discard h) := by
  induction l generalizing h with
  | nil => cases hx
  | cons y l ih =>
    rw [List.foldl_cons]
    rcases List.mem_cons.1 hx with rfl | hx
    · exact foldl_discard_induct (gone_discard hold) fun y _ _ hg => hg.discards y
    · exact ih hx ((nextId_discard h y).symm ▸ hold)

/-- What stands in a queue is gone with the one that has the queue. -/
theorem gone_drop_of_queued {y : Resource} (hx : x ∈ h.queued y) (hold : x.number < h.nextId) :
    Gone x (h.drop y) :=
  gone_discard_all hx ((nextId_discard h y).symm ▸ hold)

end SyscallBridge.InProcessHost
