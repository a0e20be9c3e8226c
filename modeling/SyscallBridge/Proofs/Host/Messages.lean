import SyscallBridge.Proofs.Host.Channels

/-!
# Messages over a channel

What one side of a channel sends is what the other side has received, what stands in its queue, and
nothing else. `Conveys` ties the queue of a side to the messages sent and received so far, and from
it `Receipt` tells what the next receive comes to.
-/

namespace SyscallBridge

open InProcess

namespace InProcess

/-- The messages that stand in a queue. -/
def messages (queue : List Frame) : List Message := queue.filterMap Frame.message?

theorem messages_cons (frame : Frame) (queue : List Frame) :
    messages (frame :: queue) = frame.message?.toList ++ messages queue := by
  cases frame <;> rfl

theorem messages_snoc (queue : List Frame) (frame : Frame) :
    messages (queue ++ [frame]) = messages queue ++ frame.message?.toList := by
  rw [messages, List.filterMap_append]
  cases frame <;> rfl

theorem messages_aborts {queue : List Frame} (h : ∀ frame ∈ queue, frame = .abort) :
    messages queue = [] := by
  refine List.filterMap_eq_nil_iff.2 fun frame hframe => ?_
  rw [h frame hframe]
  rfl

end InProcess

/-- What a receive may come to after `inn` has been received of `out`, when this side and the other
one are open or not; `eof` tells of the end, and `stopped` of the closing of this side. -/
inductive Receipt {ε : Type} (eof : ε) (stopped : List ε) (out inn : List Message)
    (here there : Bool) : Option (Except ε (Option Message)) → Prop where
  | waits (all : here = true → inn = out) : Receipt eof stopped out inn here there none
  | gives (m : Message) (next : inn ++ [m] <+: out) :
    Receipt eof stopped out inn here there (some (.ok (some m)))
  | ends (all : inn = out) (closed : there = false) :
    Receipt eof stopped out inn here there (some (.error eof))
  | stops {e : ε} (told : e ∈ stopped) (closed : here = false) :
    Receipt eof stopped out inn here there (some (.error e))

namespace InProcessHost

variable {h h' : InProcessHost} {w r : Nat} {out inn : List Message} {q : Request}

/-! ### Open sides -/

theorem isOpenChannel_of_refuses {c : ChannelHandle}
    (hrefused : h.refuses (.receiveMessage c) = true) : h.isOpenChannel c.id = false := by
  have hclosed : (h.channels.find? c.id).any (·.closed) = true := hrefused
  rw [isOpenChannel]
  cases hside : h.channels.find? c.id with
  | none => rfl
  | some side =>
    rw [hside, Option.any_some] at hclosed
    rw [Option.any_some, hclosed]
    rfl

theorem isOpenChannel_request {x : Nat} (hx : x < h.nextId) (q : Request) :
    (h.act (.request q)).isOpenChannel x = h.isOpenChannel x := by
  have hturn := channelTurn_request h q
  generalize h.act (.request q) = h' at hturn
  cases hturn with
  | keeps channels => rw [isOpenChannel, channels, isOpenChannel]
  | dials channels =>
    rw [isOpenChannel, channels, find?_dialedChannels, if_neg (by omega), if_neg (by omega),
      isOpenChannel]
  | undials found => rw [isOpenChannel, found, if_neg (by omega), isOpenChannel]
  | sends found isOpen sent =>
    simp only [isOpenChannel, find?_pushFrame]
    split
    · rename_i hpeer
      rw [hpeer, Option.any_map]
    · rfl
  | receives found next got =>
    simp only [isOpenChannel, Assoc.find?_insert]
    split
    · rename_i hid
      rw [hid, found]
      rfl
    · rfl

theorem isOpenChannel_closeChannel (ho : h.Orderly) (id x : Nat) :
    (h.closeChannel id).isOpenChannel x = if x = id then false else h.isOpenChannel x := by
  rcases closeChannel_cases h id with ⟨hnot, heq⟩ | ⟨side, hside, hopen⟩
  · rw [heq]
    split
    · rename_i hx
      rw [hx, hnot]
    · rfl
  · rw [isOpenChannel, find?_closeChannel hside hopen (ho.apart id side hside)]
    split
    · rfl
    · split
      · rw [Option.any_map]
        rfl
      · rfl

theorem isOpenChannel_forget (id x : Nat) : (h.forget (.channel id)).isOpenChannel x =
    if x = id then false else h.isOpenChannel x := by
  change ((h.channels.erase id).find? x).any _ = _
  rw [Assoc.find?_erase]
  split
  · rfl
  · rfl

theorem isOpenChannel_discard (ho : h.Orderly) {x : Nat} {y : Resource} (hx : y ≠ .channel x) :
    (h.discard y).isOpenChannel x = h.isOpenChannel x := by
  cases y with
  | channel id =>
    have hid : x ≠ id := fun hid => hx (hid ▸ rfl)
    change ((h.closeChannel id).forget (.channel id)).isOpenChannel x = _
    rw [isOpenChannel_forget, if_neg hid, isOpenChannel_closeChannel ho, if_neg hid]
  | listener | stream | port | server =>
    rw [isOpenChannel, (spares_discard h _).channels (by simp [Resource.kind]), isOpenChannel]

theorem isOpenChannel_drop (ho : h.Orderly) {x : Nat} {y : Resource} (hy : y ≠ .channel x)
    (hqueued : .channel x ∉ h.queued y) : (h.drop y).isOpenChannel x = h.isOpenChannel x := by
  have hboth : (h.drop y).isOpenChannel x = h.isOpenChannel x ∧ (h.drop y).Orderly :=
    drop_induct (motive := fun g => g.isOpenChannel x = h.isOpenChannel x ∧ g.Orderly) y
      ⟨isOpenChannel_discard ho hy, ho.discard y⟩ fun z hz g hg =>
        ⟨(isOpenChannel_discard hg.2 fun heq => hqueued (heq ▸ hz)).trans hg.1, hg.2.discard z⟩
  exact hboth.1

theorem isOpenChannel_act (ho : h.Orderly) {x : Nat} (hx : x < h.nextId) {a : HostAct}
    (hclose : a ≠ .close (.channel x))
    (hdrop : ∀ y, a = .drop y → y ≠ .channel x ∧ .channel x ∉ h.queued y) :
    (h.act a).isOpenChannel x = h.isOpenChannel x := by
  have hspares := spares_act h a
  have hkeeps (hk : a.kind? ≠ some .channel) : (h.act a).isOpenChannel x = h.isOpenChannel x := by
    rw [isOpenChannel, hspares.channels hk, isOpenChannel]
  cases a with
  | request q => exact isOpenChannel_request hx q
  | close y =>
    cases y with
    | channel id =>
      have hid : x ≠ id := fun hid => hclose (by rw [hid])
      exact (isOpenChannel_closeChannel ho id x).trans (if_neg hid)
    | listener | stream | port | server => exact hkeeps (by simp [HostAct.kind?, Resource.kind])
  | drop y =>
    obtain ⟨hy, hqueued⟩ := hdrop y rfl
    exact isOpenChannel_drop ho hy hqueued
  | serve | addName | log | takeLogs => exact hkeeps (by simp [HostAct.kind?])

/-! ### Conveying -/

/-- Side `r` has been given what side `w` has sent: `inn` is received, and the rest stands in the
queue as long as `r` is there. -/
structure Conveys (h : InProcessHost) (w r : Nat) (out inn : List Message) : Prop where
  writerOld : w < h.nextId
  readerOld : r < h.nextId
  writer : ∀ c, h.channels.find? w = some c → c.peer = r
  reader : ∀ c, h.channels.find? r = some c → c.peer = w ∧ out = inn ++ messages c.queue
  received : inn <+: out

namespace Conveys

theorem apart (hc : h.Conveys w r out inn) (ho : h.Orderly) {c : Channel}
    (hr : h.channels.find? r = some c) : r ≠ w := by
  rintro rfl
  exact ho.apart r c hr (hc.reader c hr).1

theorem dialed (ho : h.Orderly) {slot slot' : Nat}
    (hw : h.channels.find? w = some { slot, peer := r })
    (hr : h.channels.find? r = some { slot := slot', peer := w }) : h.Conveys w r [] [] where
  writerOld := (ho.numbered w _ hw).1
  readerOld := (ho.numbered w _ hw).2
  writer c hc := by
    cases hw.symm.trans hc
    rfl
  reader c hc := by
    cases hr.symm.trans hc
    exact ⟨rfl, rfl⟩
  received := List.prefix_refl []

/-- Sides of channels only go away, or are given frames that are no messages. -/
theorem kept (hc : h.Conveys w r out inn) (nextId : h.nextId ≤ h'.nextId)
    (sides : ∀ x c', h'.channels.find? x = some c' → ∃ c, h.channels.find? x = some c ∧
      c'.peer = c.peer ∧ messages c'.queue = messages c.queue) : h'.Conveys w r out inn where
  writerOld := Nat.lt_of_lt_of_le hc.writerOld nextId
  readerOld := Nat.lt_of_lt_of_le hc.readerOld nextId
  writer c' hc' := by
    obtain ⟨c, hfound, hpeer, -⟩ := sides w c' hc'
    exact hpeer.trans (hc.writer c hfound)
  reader c' hc' := by
    obtain ⟨c, hfound, hpeer, hqueue⟩ := sides r c' hc'
    obtain ⟨hback, hout⟩ := hc.reader c hfound
    exact ⟨hpeer.trans hback, hqueue ▸ hout⟩
  received := hc.received

theorem keeps (hc : h.Conveys w r out inn) (channels : h'.channels = h.channels)
    (nextId : h.nextId ≤ h'.nextId) : h'.Conveys w r out inn :=
  hc.kept nextId fun _ c hfound => ⟨c, channels ▸ hfound, rfl, rfl⟩

theorem dials (hc : h.Conveys w r out inn) (channels : h'.channels = h.dialedChannels)
    (nextId : h'.nextId = h.nextId + 2) : h'.Conveys w r out inn := by
  have hw := hc.writerOld
  have hr := hc.readerOld
  have hold {x : Nat} (hx : x < h.nextId) : h'.channels.find? x = h.channels.find? x := by
    rw [channels, find?_dialedChannels, if_neg (by omega), if_neg (by omega)]
  exact ⟨by omega, by omega, hold hw ▸ hc.writer, hold hr ▸ hc.reader, hc.received⟩

theorem undials (hc : h.Conveys w r out inn) (found : ∀ y, h'.channels.find? y =
      if y = h.nextId + 1 ∨ y = h.nextId then none else h.channels.find? y)
    (nextId : h'.nextId = h.nextId + 2) : h'.Conveys w r out inn := by
  refine hc.kept (by omega) fun x c hfound => ⟨c, ?_, rfl, rfl⟩
  rw [found] at hfound
  split at hfound
  · cases hfound
  · exact hfound

theorem sends (hc : h.Conveys w r out inn) (ho : h.Orderly) {id : Nat} {side : Channel}
    (found : h.channels.find? id = some side) (m : Message) :
    (h.pushFrame side.peer (.message m)).Conveys w r (out ++ if id = w then [m] else []) inn where
  writerOld := hc.writerOld
  readerOld := hc.readerOld
  writer c hw := by
    rw [find?_pushFrame] at hw
    split at hw
    · rename_i hpeer
      obtain ⟨d, hd, rfl⟩ := Option.map_eq_some_iff.1 hw
      exact hc.writer d (hpeer ▸ hd)
    · exact hc.writer c hw
  reader c hr := by
    rw [find?_pushFrame] at hr
    split at hr
    · rename_i hpeer
      obtain ⟨d, hd, rfl⟩ := Option.map_eq_some_iff.1 hr
      obtain ⟨hback, hout⟩ := hc.reader d (hpeer ▸ hd)
      -- Only its other side gives a side messages.
      have hsender : id = w := (ho.paired id side d found hd).symm.trans hback
      refine ⟨hback, ?_⟩
      rw [if_pos hsender, messages_snoc, hout, List.append_assoc]
      rfl
    · rename_i hpeer
      have hsender : id ≠ w := by
        rintro rfl
        exact hpeer (hc.writer side found).symm
      rw [if_neg hsender, List.append_nil]
      exact hc.reader c hr
  received := hc.received.trans (List.prefix_append _ _)

theorem receives (hc : h.Conveys w r out inn) {id : Nat} {side : Channel} {frame : Frame}
    {queue : List Frame} (found : h.channels.find? id = some side)
    (next : side.queue = frame :: queue) :
    Conveys { h with channels := h.channels.insert id { side with queue } } w r out
      (inn ++ if id = r then frame.message?.toList else []) where
  writerOld := hc.writerOld
  readerOld := hc.readerOld
  writer c hw := by
    rw [Assoc.find?_insert] at hw
    split at hw
    · rename_i hid
      cases hw
      exact hc.writer side (hid ▸ found)
    · exact hc.writer c hw
  reader c hr := by
    rw [Assoc.find?_insert] at hr
    split at hr
    · rename_i hid
      cases hr
      obtain ⟨hback, hout⟩ := hc.reader side (hid ▸ found)
      refine ⟨hback, ?_⟩
      rw [if_pos hid.symm, hout, next, messages_cons, List.append_assoc]
    · rename_i hid
      rw [if_neg (Ne.symm hid), List.append_nil]
      exact hc.reader c hr
  received := by
    split
    · rename_i hid
      obtain ⟨-, hout⟩ := hc.reader side (hid ▸ found)
      rw [hout, next, messages_cons, ← List.append_assoc]
      exact List.prefix_append _ _
    · rw [List.append_nil]
      exact hc.received

theorem closes (hc : h.Conveys w r out inn) (ho : h.Orderly) (id : Nat) :
    (h.closeChannel id).Conveys w r out inn := by
  rcases closeChannel_cases h id with ⟨-, heq⟩ | ⟨side, hside, hopen⟩
  · rw [heq]
    exact hc
  · refine hc.kept (Nat.le_of_eq (nextId_close h (.channel id)).symm) fun x c' hc' => ?_
    rw [find?_closeChannel hside hopen (ho.apart id side hside)] at hc'
    split at hc'
    · rename_i hx
      cases hc'
      refine ⟨side, hx ▸ hside, rfl, ?_⟩
      rw [messages_snoc]
      exact List.append_nil _
    · split at hc'
      · obtain ⟨c, hfound, rfl⟩ := Option.map_eq_some_iff.1 hc'
        refine ⟨c, hfound, rfl, ?_⟩
        rw [messages_snoc]
        exact List.append_nil _
      · exact ⟨c', hc', rfl, rfl⟩

theorem forgets (hc : h.Conveys w r out inn) (x : Resource) :
    (h.forget x).Conveys w r out inn := by
  refine hc.kept (Nat.le_of_eq (nextId_forget h x).symm) fun y c hfound => ⟨c, ?_, rfl, rfl⟩
  cases x with
  | channel id =>
    change (h.channels.erase id).find? y = some c at hfound
    rw [Assoc.find?_erase] at hfound
    split at hfound
    · cases hfound
    · exact hfound
  | listener | stream | port | server => exact hfound

theorem request (hc : h.Conveys w r out inn) (ho : h.Orderly) (q : Request) :
    (h.act (.request q)).Conveys w r (out ++ h.sentBy w (.request q))
      (inn ++ h.gotBy r (.request q)) := by
  have hturn := channelTurn_request h q
  generalize h.act (.request q) = h' at hturn
  cases hturn with
  | keeps channels nextId sent got =>
    rw [sent, got, List.append_nil, List.append_nil]
    exact hc.keeps channels nextId
  | dials channels nextId =>
    simpa only [sentBy, gotBy, List.append_nil] using hc.dials channels nextId
  | undials found nextId =>
    simpa only [sentBy, gotBy, List.append_nil] using hc.undials found nextId
  | sends found isOpen sent =>
    rw [sent]
    simpa only [gotBy, List.append_nil] using hc.sends ho found _
  | receives found next got =>
    rw [got]
    simpa only [sentBy, List.append_nil] using hc.receives found next

theorem close (hc : h.Conveys w r out inn) (ho : h.Orderly) (x : Resource) :
    (h.close x).Conveys w r out inn := by
  have hspares := spares_close h x
  cases x with
  | channel id => exact hc.closes ho id
  | listener | stream | port | server =>
    exact hc.keeps (hspares.channels (by simp [Resource.kind])) hspares.nextId

theorem discard (hc : h.Conveys w r out inn) (ho : h.Orderly) (x : Resource) :
    (h.discard x).Conveys w r out inn := (hc.close ho x).forgets x

theorem drop (hc : h.Conveys w r out inn) (ho : h.Orderly) (x : Resource) :
    (h.drop x).Conveys w r out inn := by
  have hboth : (h.drop x).Conveys w r out inn ∧ (h.drop x).Orderly :=
    drop_induct (motive := fun g => g.Conveys w r out inn ∧ g.Orderly) x
      ⟨hc.discard ho x, ho.discard x⟩ fun y _ _ hg => ⟨hg.1.discard hg.2 y, hg.2.discard y⟩
  exact hboth.1

theorem act (hc : h.Conveys w r out inn) (ho : h.Orderly) (a : HostAct) :
    (h.act a).Conveys w r (out ++ h.sentBy w a) (inn ++ h.gotBy r a) := by
  cases a with
  | request q => exact hc.request ho q
  | close x =>
    simp only [sentBy, gotBy, List.append_nil]
    exact hc.close ho x
  | drop x =>
    simp only [sentBy, gotBy, List.append_nil]
    exact hc.drop ho x
  | serve url =>
    have hspares := spares_act h (.serve url)
    simp only [sentBy, gotBy, List.append_nil]
    exact hc.keeps (hspares.channels (by simp [HostAct.kind?])) hspares.nextId
  | addName | log | takeLogs =>
    simp only [sentBy, gotBy, List.append_nil]
    exact hc.keeps rfl (Nat.le_refl _)

/-! ### The next receive -/

theorem all_received (hc : h.Conveys w r out inn) (hopen : h.isOpenChannel r = true)
    (hp : h.receiveMessage? r = none) : inn = out := by
  obtain ⟨side, hside, -⟩ := (Option.any_eq_true _ _).1 hopen
  have hempty : side.queue = [] := by
    unfold receiveMessage? at hp
    rw [hside] at hp
    cases hqueue : side.queue with
    | nil => rfl
    | cons frame queue => cases frame <;> simp [hqueue] at hp
  obtain ⟨-, hout⟩ := hc.reader side hside
  rw [hout, hempty]
  exact (List.append_nil inn).symm

theorem receipt_poll? (hc : h.Conveys w r out inn) (ho : h.Orderly) (hm : h.Marked)
    {c : ChannelHandle} (hid : c.id = r) :
    Receipt HostFailure.connectionClosed [.aborted] out inn (h.isOpenChannel r) (h.isOpenChannel w)
      ((h.poll? (.receiveMessage c)).map fun told => told.1.map some) := by
  subst hid
  cases hp : h.poll? (.receiveMessage c) with
  | none => exact .waits fun hopen => hc.all_received hopen hp
  | some told =>
    obtain ⟨answer, h'⟩ := told
    obtain ⟨side, frame, queue, hside, hqueue, hanswer, -⟩ := receiveMessage?_eq_some hp
    obtain ⟨hback, hout⟩ := hc.reader side hside
    rw [hqueue, messages_cons] at hout
    rcases hanswer with ⟨rfl, rfl⟩ | ⟨rfl, rfl⟩ | ⟨m, rfl, rfl⟩
    · refine .stops (List.mem_singleton_self _) ?_
      have hmark : 0 < side.inbox.aborts := List.count_pos_iff.2 (hqueue ▸ List.mem_cons_self)
      have hclosed : side.closed = true :=
        hm.closed (.channel c.id) side.inbox (congrArg (Option.map Channel.inbox) hside) hmark
      rw [isOpenChannel_of_find? hside, hclosed]
      rfl
    · -- Behind the end stand only marks of the closing of this side.
      have hlast := ho.last c.id side hside
      rw [hqueue] at hlast
      have hrest := messages_aborts fun frame hframe => (List.pairwise_cons.1 hlast).1 frame hframe rfl
      refine .ends ?_ ?_
      · rw [hout, hrest]
        exact (List.append_nil inn).symm
      · exact hback ▸ ho.ended c.id side hside (hqueue ▸ List.mem_cons_self)
    · refine .gives m ⟨messages queue, ?_⟩
      rw [hout, List.append_assoc]
      rfl

theorem receipt_answer? (hc : h.Conveys w r out inn) (ho : h.Orderly) (hm : h.Marked)
    {c : ChannelHandle} (hid : c.id = r) :
    Receipt HostFailure.connectionClosed [.aborted] out inn (h.isOpenChannel r) (h.isOpenChannel w)
      ((h.answer? (.receiveMessage c)).map fun told => told.1.map some) := by
  rw [answer?]
  split
  · rename_i hrefused
    refine .stops (List.mem_singleton_self _) ?_
    rw [← hid, isOpenChannel_of_refuses hrefused]
  · exact hc.receipt_poll? ho hm hid

end Conveys

end InProcessHost

end SyscallBridge
