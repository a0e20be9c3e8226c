import SyscallBridge.Proofs.Host.ClosedResources
import SyscallBridge.Proofs.Host.Queues

/-!
# Bytes over a stream

What one side of a stream writes is what the other side has read, what is waiting to be read, and
nothing else. `Holds` says what an open side has yet to give, and `Carries` ties that to the bytes
written and read so far.
-/

namespace SyscallBridge

open InProcess InProcessHost

namespace InProcess

/-- Data in order, with the end behind it if the other side is shut. -/
def segments (data : List Bytes) (shut : Bool) : List Segment :=
  data.map .data ++ if shut then [.finish] else []

theorem segments_snoc (data : List Bytes) (bytes : Bytes) :
    segments (data ++ [bytes]) false = segments data false ++ [.data bytes] := by
  simp only [segments, List.map_append, List.map_cons, List.map_nil, Bool.false_eq_true, if_false,
    List.append_nil]

theorem segments_shut (data : List Bytes) :
    segments data true = segments data false ++ [.finish] := by
  simp only [segments, if_true, Bool.false_eq_true, if_false, List.append_nil]

/-- Passing over empty segments loses no byte. -/
theorem skipEmpty_segments (data : List Bytes) (shut : Bool) :
    ∃ rest, skipEmpty (segments data shut) = segments rest shut ∧ rest.flatten = data.flatten ∧
      ∀ bytes more, rest = bytes :: more → bytes ≠ [] := by
  induction data with
  | nil =>
    refine ⟨[], ?_, rfl, ?_⟩
    · cases shut <;> rfl
    · intro bytes more hrest
      cases hrest
  | cons first data ih =>
    cases first with
    | nil =>
      obtain ⟨rest, hskip, hflat, hne⟩ := ih
      exact ⟨rest, hskip, hflat, hne⟩
    | cons b bs =>
      refine ⟨(b :: bs) :: data, rfl, rfl, ?_⟩
      intro bytes more hrest
      cases hrest
      exact List.cons_ne_nil b bs

namespace Stream

/-- A side that has yet to give `bytes`, and the end after them if `shut`. -/
inductive Holds (s : Stream) : Bytes → Bool → Prop where
  | flows (data : List Bytes) (shut : Bool) (ended : s.ended = false)
    (queue : s.queue = segments data shut) : Holds s (s.unread ++ data.flatten) shut
  | ends (ended : s.ended = true) (unread : s.unread = []) (queue : s.queue = []) :
    Holds s [] true

/-- What a read does: it waits, or finds the end, or gives the next bytes. -/
inductive Reads (s : Stream) (size : Nat) (bytes : Bytes) (shut : Bool) :
    Option (Except HostFailure Bytes × Stream) → Prop where
  | waits (empty : bytes = []) (open_ : shut = false) : Reads s size bytes shut none
  | finds (empty : bytes = []) (shut_ : shut = true) (s' : Stream) (holds : s'.Holds [] true) :
    Reads s size bytes shut (some (.error .connectionClosed, s'))
  | gives (got rest : Bytes) (split : bytes = got ++ rest) (some_ : 0 < size → got ≠ [])
    (s' : Stream) (holds : s'.Holds rest shut) : Reads s size bytes shut (some (.ok got, s'))

variable {s s' : Stream} {bytes : Bytes} {shut : Bool}

theorem take_ne_nil {size : Nat} {bytes : Bytes} (hb : bytes ≠ []) (hs : 0 < size) :
    bytes.take size ≠ [] := by
  intro h
  have hlen : (bytes.take size).length = 0 := by rw [h]; rfl
  have hpos : 0 < bytes.length := List.length_pos_iff.2 hb
  simp only [List.length_take] at hlen
  omega

theorem Holds.reads (h : s.Holds bytes shut) (size : Nat) :
    Reads s size bytes shut (InProcessHost.Stream.take? s size) := by
  unfold InProcessHost.Stream.take?
  cases h with
  | ends ended unread queue =>
    rw [if_neg (by simp [unread]), if_pos ended]
    exact .finds rfl rfl s (.ends ended unread queue)
  | flows data shut ended queue =>
    by_cases hunread : s.unread = []
    · rw [if_neg (by simp [hunread]), if_neg (by simp [ended]), hunread, List.nil_append]
      obtain ⟨rest, hskip, hflat, hne⟩ := skipEmpty_segments data shut
      rw [queue, hskip, ← hflat]
      cases rest with
      | nil =>
        cases shut with
        | false => exact .waits rfl rfl
        | true => exact .finds rfl rfl _ (.ends rfl rfl rfl)
      | cons first more =>
        refine .gives (first.take size) (first.drop size ++ more.flatten) ?_ ?_ _ ?_
        · rw [List.flatten_cons, ← List.append_assoc, List.take_append_drop]
        · exact take_ne_nil (hne first more rfl)
        · exact .flows more shut ended rfl
    · rw [if_pos hunread]
      refine .gives (s.unread.take size) (s.unread.drop size ++ data.flatten) ?_ ?_ _ ?_
      · rw [← List.append_assoc, List.take_append_drop]
      · exact take_ne_nil hunread
      · exact .flows data shut ended queue

theorem Holds.push_data (h : s.Holds bytes false) (data : Bytes) :
    Holds { s with queue := s.queue ++ [.data data] } (bytes ++ data) false := by
  cases h with
  | flows segs shut ended queue =>
    have hqueue : s.queue ++ [.data data] = segments (segs ++ [data]) false := by
      rw [queue, segments_snoc]
    have hbytes : s.unread ++ segs.flatten ++ data = s.unread ++ (segs ++ [data]).flatten := by
      simp only [List.flatten_append, List.flatten_cons, List.flatten_nil, List.append_nil,
        List.append_assoc]
    rw [hbytes]
    exact .flows (segs ++ [data]) false ended hqueue

theorem Holds.push_finish (h : s.Holds bytes false) :
    Holds { s with queue := s.queue ++ [.finish] } bytes true := by
  cases h with
  | flows segs shut ended queue =>
    have hqueue : s.queue ++ [.finish] = segments segs true := by rw [queue, segments_shut]
    exact .flows segs true ended hqueue

end Stream

end InProcess

namespace InProcessHost

/-! ### Two sides -/

/-- The other side of a stream. -/
def peer? (h : InProcessHost) (id : Nat) : Option Nat := (h.streams.find? id).map (·.peer)

/-- The stream is there and open. -/
def isOpen (h : InProcessHost) (id : Nat) : Bool := (h.streams.find? id).any fun s => !s.closed

/-- Numbers of streams have been given out. -/
def Numbered (h : InProcessHost) : Prop :=
  ∀ id peer, h.peer? id = some peer → id < h.nextId ∧ peer < h.nextId

/-- `r` is the side that reads what `w` writes, and nobody else writes to it. -/
structure Linked (h : InProcessHost) (w r : Nat) : Prop where
  apart : w ≠ r
  reader : h.peer? r = some w
  writer : ∀ x, h.peer? w = some x → x = r
  alone : ∀ x, h.peer? x = some r → x = w

theorem Numbered.of_peers {h h' : InProcessHost} (hn : h.Numbered)
    (hp : ∀ x y, h'.peer? x = some y → h.peer? x = some y) (hi : h.nextId ≤ h'.nextId) :
    h'.Numbered := by
  intro x y hx
  have := hn x y (hp x y hx)
  omega

theorem find?_forgetStream (h : InProcessHost) (id x : Nat) :
    (h.forget (.stream id)).streams.find? x = if x = id then none else h.streams.find? x :=
  Assoc.find?_erase _ _ _

theorem peer?_of_forget {h : InProcessHost} {id x y : Nat}
    (hx : (h.forget (.stream id)).peer? x = some y) : h.peer? x = some y := by
  rw [peer?, find?_forgetStream] at hx
  split at hx
  · cases hx
  · exact hx

theorem Linked.of_peers {h h' : InProcessHost} {w r : Nat} (hl : h.Linked w r)
    (hp : ∀ x, h'.peer? x = h.peer? x) : h'.Linked w r := by
  obtain ⟨apart, reader, writer, alone⟩ := hl
  refine ⟨apart, ?_, ?_, ?_⟩ <;> simpa only [hp]

/-- An open side `r` has been given what `w` has written: `inn` is read, and the rest held. -/
structure Carries (h : InProcessHost) (w r : Nat) (out inn : Bytes) : Prop where
  linked : h.Linked w r
  held : ∃ s rest, h.streams.find? r = some s ∧ s.closed = false ∧
    s.Holds rest (!h.isOpen w) ∧ out = inn ++ rest

/-- Nothing is done to streams, and no number is given back. -/
structure KeepsStreams (h h' : InProcessHost) : Prop where
  streams : h'.streams = h.streams
  nextId : h.nextId ≤ h'.nextId

variable {h h' : InProcessHost} {w r : Nat} {out inn : Bytes}

namespace KeepsStreams

theorem peers (hk : KeepsStreams h h') (x : Nat) : h'.peer? x = h.peer? x := by
  rw [peer?, hk.streams, peer?]

theorem carries (hk : KeepsStreams h h') (hc : h.Carries w r out inn) :
    h'.Carries w r out inn := by
  refine ⟨hc.linked.of_peers hk.peers, ?_⟩
  simpa only [isOpen, hk.streams] using hc.held

end KeepsStreams

theorem Spares.keepsStreams {k : Option ResourceKind} (hs : Spares k h h')
    (hk : k ≠ some .stream) : KeepsStreams h h' := ⟨hs.streams hk, hs.nextId⟩

/-- Requests that open, read or write a stream. -/
def onStreams : Request → Bool
  | .dial .tcp _ _ => true
  | .read c _ | .write c _ => c.protocol == .tcp
  | _ => false

theorem onStreams_cases {q : Request} (hq : onStreams q = true) :
    (∃ own peer, q = .dial .tcp own peer) ∨
    (∃ c size, c.protocol = .tcp ∧ q = .read c size) ∨
    ∃ c data, c.protocol = .tcp ∧ q = .write c data := by
  cases q with
  | dial protocol own peer =>
    cases protocol with
    | tcp => exact Or.inl ⟨own, peer, rfl⟩
    | udp => cases hq
  | read c size => exact Or.inr (Or.inl ⟨c, size, eq_of_beq hq, rfl⟩)
  | write c data => exact Or.inr (Or.inr ⟨c, data, eq_of_beq hq, rfl⟩)
  | resolve | listen | bindPort | dialChannel | accept | sendTo | receiveFrom | sendMessage
  | receiveMessage | acceptChannel => cases hq

theorem kind?_of_onStreams {q : Request} (hq : onStreams q = false) :
    q.kind? ≠ some .stream := by
  cases q with
  | dial protocol own peer =>
    cases protocol with
    | tcp => cases hq
    | udp => simp [Request.kind?]
  | read c size | write c data =>
    obtain ⟨protocol, id, own, peer⟩ := c
    cases protocol with
    | tcp => cases hq
    | udp => simp [Request.kind?, ConnectionHandle.resource, Resource.kind]
  | resolve | listen | bindPort | dialChannel | accept | sendTo | receiveFrom | sendMessage
  | receiveMessage | acceptChannel => simp [Request.kind?]

theorem keepsStreams_request {q : Request} (hq : onStreams q = false) :
    KeepsStreams h (h.act (.request q)) :=
  (spares_act h (.request q)).keepsStreams (kind?_of_onStreams hq)

theorem kind_ne_stream {x : Resource} (hx : ∀ id, x ≠ .stream id) : some x.kind ≠ some .stream := by
  cases x with
  | stream id => exact absurd rfl (hx id)
  | listener | port | channel | server => simp [Resource.kind]

theorem keepsStreams_close {x : Resource} (hx : ∀ id, x ≠ .stream id) :
    KeepsStreams h (h.close x) :=
  (spares_act h (.close x)).keepsStreams (kind_ne_stream hx)

theorem keepsStreams_discard {x : Resource} (hx : ∀ id, x ≠ .stream id) :
    KeepsStreams h (h.discard x) :=
  (spares_discard h x).keepsStreams (kind_ne_stream hx)

theorem keepsStreams_serve (h : InProcessHost) (url : String) :
    KeepsStreams h (h.serve url).2 :=
  (spares_act h (.serve url)).keepsStreams (by simp [HostAct.kind?])

/-! ### Acts on streams -/

/-- A stream is replaced by one with the same other side. -/
theorem peer?_insert {id : Nat} {s s' : Stream} (hs : h.streams.find? id = some s)
    (hp : s'.peer = s.peer) (x : Nat) :
    peer? { h with streams := h.streams.insert id s' } x = h.peer? x := by
  simp only [peer?, Assoc.find?_insert]
  split
  · rename_i hx
    rw [hx, hs, Option.map_some, Option.map_some, hp]
  · rfl

theorem isOpen_insert_of_ne {id : Nat} {s' : Stream} {x : Nat} (hx : x ≠ id) :
    isOpen { h with streams := h.streams.insert id s' } x = h.isOpen x := by
  simp only [isOpen, Assoc.find?_insert, if_neg hx]

theorem find?_pushSegment (h : InProcessHost) (id : Nat) (segment : Segment) (x : Nat) :
    (h.pushSegment id segment).streams.find? x =
      if x = id then (h.streams.find? id).map fun s => { s with queue := s.queue ++ [segment] }
      else h.streams.find? x := Assoc.find?_modify _ _ _ _

theorem peer?_pushSegment (h : InProcessHost) (id : Nat) (segment : Segment) (x : Nat) :
    (h.pushSegment id segment).peer? x = h.peer? x := by
  simp only [peer?, find?_pushSegment]
  split
  · rename_i hx
    rw [hx, Option.map_map]
    rfl
  · rfl

theorem isOpen_pushSegment (h : InProcessHost) (id : Nat) (segment : Segment) (x : Nat) :
    (h.pushSegment id segment).isOpen x = h.isOpen x := by
  simp only [isOpen, find?_pushSegment]
  split
  · rename_i hx
    rw [hx]
    cases h.streams.find? id <;> rfl
  · rfl

theorem closeStream_cases (h : InProcessHost) (id : Nat) :
    (h.isOpen id = false ∧ h.closeStream id = h) ∨
    ∃ s, h.streams.find? id = some s ∧ s.closed = false ∧ h.closeStream id =
      (((pushSegment { h with streams := h.streams.insert id { s with closed := true } } s.peer
        .finish).pushSegment id .abort).release s.slot) := by
  unfold closeStream
  split
  · rename_i hnone
    exact Or.inl ⟨by rw [isOpen, hnone]; rfl, rfl⟩
  · rename_i s hs
    split
    · rename_i hclosed
      exact Or.inl ⟨by simp [isOpen, hs, hclosed], rfl⟩
    · rename_i hopen
      exact Or.inr ⟨s, hs, by simpa using hopen, rfl⟩

theorem peer?_closeStream (h : InProcessHost) (id x : Nat) :
    (h.closeStream id).peer? x = h.peer? x := by
  rcases closeStream_cases h id with ⟨-, heq⟩ | ⟨s, hs, -, heq⟩
  · rw [heq]
  · have hsame : peer? { h with streams := h.streams.insert id { s with closed := true } } x =
        h.peer? x := by
      have hpeer : ({ s with closed := true } : Stream).peer = s.peer := rfl
      exact peer?_insert hs hpeer x
    rw [heq]
    change peer? (pushSegment _ id .abort) x = _
    rw [peer?_pushSegment, peer?_pushSegment, hsame]

theorem isOpen_closeStream (h : InProcessHost) (id x : Nat) :
    (h.closeStream id).isOpen x = if x = id then false else h.isOpen x := by
  rcases closeStream_cases h id with ⟨hclosed, heq⟩ | ⟨s, -, -, heq⟩
  · rw [heq]
    split
    · rename_i hx
      rw [hx, hclosed]
    · rfl
  · rw [heq]
    change isOpen (pushSegment _ id .abort) x = _
    rw [isOpen_pushSegment, isOpen_pushSegment]
    split
    · rename_i hx
      simp only [isOpen, hx, Assoc.find?_insert, if_true, Option.any_some, Bool.not_true]
    · rename_i hx
      exact isOpen_insert_of_ne hx

/-- Another stream is given the end, if it is the other side of the one that is closed. -/
theorem find?_closeStream {id : Nat} {s : Stream} (hs : h.streams.find? id = some s)
    (hopen : s.closed = false) {x : Nat} (hx : x ≠ id) :
    (h.closeStream id).streams.find? x =
      if x = s.peer then
        (h.streams.find? x).map fun s => { s with queue := s.queue ++ [.finish] }
      else h.streams.find? x := by
  have hother (t : Stream) : (h.streams.insert id t).find? x = h.streams.find? x := by
    rw [Assoc.find?_insert, if_neg hx]
  rcases closeStream_cases h id with ⟨hclosed, -⟩ | ⟨s', hs', -, heq⟩
  · simp [isOpen, hs, hopen] at hclosed
  · obtain rfl : s' = s := Option.some.inj (hs'.symm.trans hs)
    rw [heq]
    change (pushSegment _ id .abort).streams.find? x = _
    rw [find?_pushSegment, if_neg hx, find?_pushSegment]
    split
    · rename_i hpeer
      rw [← hpeer]
      exact congrArg _ (hother _)
    · exact hother _

/-- A dial that comes to nothing leaves the streams as they were, but for its own two numbers. -/
structure Undials (h h' : InProcessHost) : Prop where
  nextId : h'.nextId = h.nextId + 2
  find : ∀ y, h'.streams.find? y =
    if y = h.nextId + 1 ∨ y = h.nextId then none else h.streams.find? y

theorem Undials.peers (hu : Undials h h') {x y : Nat} (hx : h'.peer? x = some y) :
    h.peer? x = some y := by
  rw [peer?, hu.find] at hx
  split at hx
  · cases hx
  · exact hx

theorem Numbered.dial (hn : h.Numbered) (hs : h'.streams = h.dialed)
    (hi : h'.nextId = h.nextId + 2) : h'.Numbered := by
  intro x y hx
  simp only [peer?, hs, find?_dialed] at hx
  split at hx
  · have := Option.some.inj hx
    dsimp only at this
    omega
  · split at hx
    · have := Option.some.inj hx
      dsimp only at this
      omega
    · have := hn x y hx
      omega

namespace Carries

theorem peer_eq (hc : h.Carries w r out inn) {id : Nat} {s : Stream}
    (hs : h.streams.find? id = some s) : s.peer = r ↔ id = w := by
  have hpeer : h.peer? id = some s.peer := by rw [peer?, hs]; rfl
  constructor
  · intro he
    exact hc.linked.alone id (he ▸ hpeer)
  · intro he
    exact hc.linked.writer s.peer (he ▸ hpeer)

theorem read (hc : h.Carries w r out inn) {id size : Nat} {s s' : Stream}
    {answer : Except HostFailure Bytes} (hs : h.streams.find? id = some s)
    (ht : Stream.take? s size = some (answer, s')) :
    Carries { h with streams := h.streams.insert id s' } w r out
      (inn ++ if id = r then answer.toOption.getD [] else []) := by
  obtain ⟨-, hpeer, hclosed⟩ := take?_fixed ht
  have hpeers := peer?_insert hs hpeer
  refine ⟨hc.linked.of_peers hpeers, ?_⟩
  obtain ⟨sr, rest, hr, hopen, hholds, hout⟩ := hc.held
  have hshut : isOpen { h with streams := h.streams.insert id s' } w = h.isOpen w := by
    by_cases hw : w = id
    · subst hw
      simp only [isOpen, Assoc.find?_insert, if_true, hs, Option.any_some, hclosed]
    · exact isOpen_insert_of_ne hw
  by_cases hid : id = r
  · subst hid
    obtain rfl : sr = s := Option.some.inj (hr.symm.trans hs)
    have hreads := hholds.reads size
    rw [ht] at hreads
    rw [if_pos rfl, hshut]
    have hfind : (h.streams.insert id s').find? id = some s' := by
      rw [Assoc.find?_insert, if_pos rfl]
    cases hreads with
    | finds empty shut_ _ holds =>
      refine ⟨s', [], hfind, hclosed.trans hopen, ?_, ?_⟩
      · rw [shut_]
        exact holds
      · rw [hout, empty]
        exact (List.append_nil _).symm
    | gives got more split some_ _ holds =>
      refine ⟨s', more, hfind, hclosed.trans hopen, holds, ?_⟩
      rw [hout, split, List.append_assoc]
      rfl
  · rw [if_neg hid, List.append_nil, hshut]
    refine ⟨sr, rest, ?_, hopen, hholds, hout⟩
    change (h.streams.insert id s').find? r = some sr
    rw [Assoc.find?_insert, if_neg (Ne.symm hid), hr]

theorem write (hc : h.Carries w r out inn) {id : Nat} {s : Stream} (data : Bytes)
    (hs : h.streams.find? id = some s) (hopen : s.closed = false) :
    Carries (h.pushSegment s.peer (.data data)) w r (out ++ if id = w then data else []) inn := by
  have hpeers := peer?_pushSegment h s.peer (.data data)
  refine ⟨hc.linked.of_peers hpeers, ?_⟩
  obtain ⟨sr, rest, hr, hropen, hholds, hout⟩ := hc.held
  rw [isOpen_pushSegment]
  by_cases hid : id = w
  · have hpeer : s.peer = r := (hc.peer_eq hs).2 hid
    have hw : h.isOpen w = true := by simp [isOpen, ← hid, hs, hopen]
    rw [hw] at hholds ⊢
    refine ⟨_, rest ++ data, ?_, ?_, hholds.push_data data, ?_⟩
    · rw [find?_pushSegment, hpeer, if_pos rfl, hr]
      rfl
    · exact hropen
    · rw [if_pos hid, hout, List.append_assoc]
  · have hpeer : r ≠ s.peer := fun he => hid ((hc.peer_eq hs).1 he.symm)
    refine ⟨sr, rest, ?_, hropen, hholds, ?_⟩
    · rw [find?_pushSegment, if_neg hpeer, hr]
    · rw [if_neg hid, List.append_nil, hout]

theorem close (hc : h.Carries w r out inn) {id : Nat} (hid : id ≠ r) :
    Carries (h.closeStream id) w r out inn := by
  have hpeers := peer?_closeStream h id
  obtain ⟨sr, rest, hr, hropen, hholds, hout⟩ := hc.held
  rcases closeStream_cases h id with ⟨-, heq⟩ | ⟨s, hs, hopen, heq⟩
  · rw [heq]
    exact hc
  · refine ⟨hc.linked.of_peers hpeers, ?_⟩
    rw [isOpen_closeStream]
    have hfind := find?_closeStream hs hopen (Ne.symm hid)
    rw [hr] at hfind
    by_cases hw : id = w
    · -- the writer is closed, which puts the end behind its last bytes
      have hpeer : s.peer = r := (hc.peer_eq hs).2 hw
      have hwopen : h.isOpen w = true := by simp [isOpen, ← hw, hs, hopen]
      rw [if_pos hpeer.symm] at hfind
      rw [hwopen] at hholds
      rw [if_pos hw.symm]
      exact ⟨_, rest, hfind, hropen, hholds.push_finish, hout⟩
    · have hpeer : r ≠ s.peer := fun he => hw ((hc.peer_eq hs).1 he.symm)
      rw [if_neg hpeer] at hfind
      rw [if_neg (Ne.symm hw)]
      exact ⟨sr, rest, hfind, hropen, hholds, hout⟩

theorem forget (hc : h.Carries w r out inn) {id : Nat} (hid : id ≠ r)
    (hclosed : h.isOpen id = false) : Carries (h.forget (.stream id)) w r out inn := by
  have hfind := find?_forgetStream h id
  obtain ⟨apart, reader, writer, alone⟩ := hc.linked
  obtain ⟨sr, rest, hr, hropen, hholds, hout⟩ := hc.held
  have hreader : (h.forget (.stream id)).streams.find? r = some sr := by
    rw [hfind, if_neg (Ne.symm hid), hr]
  have hopen : (h.forget (.stream id)).isOpen w = h.isOpen w := by
    rw [isOpen, hfind]
    split
    · rename_i hw
      rw [hw, hclosed]
      rfl
    · rfl
  refine ⟨⟨apart, ?_, ?_, ?_⟩, ?_⟩
  · rw [peer?, hreader, ← reader, peer?, hr]
  · exact fun x hx => writer x (peer?_of_forget hx)
  · exact fun x hx => alone x (peer?_of_forget hx)
  · rw [hopen]
    exact ⟨sr, rest, hreader, hropen, hholds, hout⟩

/-- New streams are the other sides of new streams. -/
theorem grows (hc : h.Carries w r out inn) (hn : h.Numbered)
    (hold : ∀ x < h.nextId, h'.streams.find? x = h.streams.find? x)
    (hnew : ∀ x y, h.nextId ≤ x → h'.peer? x = some y → h.nextId ≤ y) :
    h'.Carries w r out inn := by
  obtain ⟨sr, rest, hr, hropen, hholds, hout⟩ := hc.held
  obtain ⟨apart, reader, writer, alone⟩ := hc.linked
  have hlt := hn r w reader
  have hpeers (x : Nat) (hx : x < h.nextId) : h'.peer? x = h.peer? x := by
    rw [peer?, hold x hx, peer?]
  refine ⟨⟨apart, ?_, ?_, ?_⟩, sr, rest, ?_, hropen, ?_, hout⟩
  · rw [hpeers r hlt.1, reader]
  · intro x hx
    rw [hpeers w hlt.2] at hx
    exact writer x hx
  · intro x hx
    by_cases hxold : x < h.nextId
    · exact alone x (hpeers x hxold ▸ hx)
    · have := hnew x r (by omega) hx
      omega
  · rw [hold r hlt.1, hr]
  · rw [isOpen, hold w hlt.2]
    exact hholds

theorem dial (hc : h.Carries w r out inn) (hn : h.Numbered) (hs : h'.streams = h.dialed) :
    h'.Carries w r out inn := by
  refine hc.grows hn (fun x hx => ?_) fun x y hxnew hx => ?_
  · rw [hs, find?_dialed, if_neg (by omega), if_neg (by omega)]
  · simp only [peer?, hs, find?_dialed] at hx
    split at hx
    · have := Option.some.inj hx
      dsimp only at this
      omega
    · split at hx
      · have := Option.some.inj hx
        dsimp only at this
        omega
      · have := hn x y hx
        omega

theorem undial (hc : h.Carries w r out inn) (hn : h.Numbered) (hu : Undials h h') :
    h'.Carries w r out inn := by
  refine hc.grows hn (fun x hx => ?_) fun x y hxnew hx => ?_
  · rw [hu.find, if_neg (by omega)]
  · have := hn x y (hu.peers hx)
    omega

theorem discard (hc : h.Carries w r out inn) {y : Resource} (hy : y ≠ .stream r) :
    (h.discard y).Carries w r out inn := by
  by_cases hstream : ∃ id, y = .stream id
  · obtain ⟨id, rfl⟩ := hstream
    have hid : id ≠ r := fun hid => hy (by rw [hid])
    exact (hc.close hid).forget hid (by rw [isOpen_closeStream, if_pos rfl])
  · exact (keepsStreams_discard fun id he => hstream ⟨id, he⟩).carries hc

theorem drop (hc : h.Carries w r out inn) {x : Resource} (hx : x ≠ .stream r)
    (hqueued : .stream r ∉ h.queued x) : (h.drop x).Carries w r out inn :=
  drop_induct (motive := fun g => g.Carries w r out inn) x (hc.discard hx)
    fun _ hy _ hg => hg.discard fun heq => hqueued (heq ▸ hy)

end Carries

/-- Both sides of a new stream begin with nothing written and nothing read. -/
theorem carries_dialed (hn : h.Numbered) (hs : h'.streams = h.dialed) (hpeer : h'.peer? r = some w)
    (hnew : h.nextId = w ∨ h.nextId = r) : h'.Carries w r [] [] := by
  have hpeers (x : Nat) : h'.peer? x =
      if x = h.nextId + 1 then some h.nextId
      else if x = h.nextId then some (h.nextId + 1) else h.peer? x := by
    rw [peer?, hs, find?_dialed]
    split
    · rfl
    · split <;> rfl
  have hpair : (w = h.nextId ∧ r = h.nextId + 1) ∨ (w = h.nextId + 1 ∧ r = h.nextId) := by
    rw [hpeers] at hpeer
    split at hpeer
    · have := Option.some.inj hpeer
      omega
    · split at hpeer
      · have := Option.some.inj hpeer
        omega
      · have := hn r w hpeer
        omega
  have hfind (x : Nat) (hx : x = w ∨ x = r) :
      ∃ s : Stream, h'.streams.find? x = some s ∧ s.closed = false ∧ s.Holds [] false := by
    rw [hs, find?_dialed]
    split
    · exact ⟨_, rfl, rfl, .flows [] false rfl rfl⟩
    · rw [if_pos (by omega)]
      exact ⟨_, rfl, rfl, .flows [] false rfl rfl⟩
  refine ⟨⟨by omega, hpeer, ?_, ?_⟩, ?_⟩
  · intro x hx
    rw [hpeers] at hx
    split at hx
    · have := Option.some.inj hx
      omega
    · rw [if_pos (by omega)] at hx
      have := Option.some.inj hx
      omega
  · intro x hx
    rw [hpeers] at hx
    split at hx
    · have := Option.some.inj hx
      omega
    · split at hx
      · have := Option.some.inj hx
        omega
      · have := hn x r hx
        omega
  · obtain ⟨t, ht, htopen, -⟩ := hfind w (Or.inl rfl)
    obtain ⟨s, hr, hropen, hholds⟩ := hfind r (Or.inr rfl)
    have hopen : h'.isOpen w = true := by simp [isOpen, ht, htopen]
    rw [hopen]
    exact ⟨s, [], hr, hropen, hholds, rfl⟩

/-! ### Numbers over a run -/

theorem KeepsStreams.numbered (hk : KeepsStreams h h') (hn : h.Numbered) : h'.Numbered :=
  hn.of_peers (fun x _ hx => hk.peers x ▸ hx) hk.nextId

theorem Numbered.close (hn : h.Numbered) (x : Resource) : (h.close x).Numbered := by
  by_cases hx : ∃ id, x = .stream id
  · obtain ⟨id, rfl⟩ := hx
    refine hn.of_peers (fun x _ hx => ?_) ?_
    · exact peer?_closeStream h id x ▸ hx
    · change h.nextId ≤ (h.closeStream id).nextId
      rcases closeStream_cases h id with ⟨-, heq⟩ | ⟨s, -, -, heq⟩
      · exact Nat.le_of_eq (by rw [heq])
      · rw [heq]
        exact Nat.le_refl _
  · exact (keepsStreams_close fun id he => hx ⟨id, he⟩).numbered hn

theorem Numbered.discard (hn : h.Numbered) (x : Resource) : (h.discard x).Numbered := by
  have hclosed := hn.close x
  cases x with
  | stream id =>
    intro x y hx
    exact hclosed x y (peer?_of_forget hx)
  | listener | port | channel | server => exact hclosed

theorem Numbered.dials (hn : h.Numbered) (own : Option NetAddress) (peer : NetAddress) :
    (h.act (.request (.dial .tcp own peer))).Numbered := by
  refine act_request_induct (motive := Numbered) _ hn fun answer h' hp => ?_
  rcases dialStream_eq_some hp with ⟨f, -, rfl⟩ | ⟨b, next, l, -, -, rfl⟩ |
    ⟨next, slots, streams, -, rfl, -, hfind⟩
  · exact hn
  · exact hn.dial rfl rfl
  · have hundone : Undials h { h with nextPort := next, nextId := h.nextId + 2, slots, streams } :=
      ⟨rfl, hfind⟩
    exact hn.of_peers (fun _ _ => hundone.peers) (Nat.le_add_right _ 2)

theorem Numbered.reads (hn : h.Numbered) {c : ConnectionHandle} (htcp : c.protocol = .tcp)
    (size : Nat) : (h.act (.request (.read c size))).Numbered := by
  obtain ⟨protocol, id, own, peer⟩ := c
  cases htcp
  refine act_request_induct (motive := Numbered) _ hn fun answer h' hp => ?_
  obtain ⟨s, s', hs, ht, rfl⟩ := readStream?_eq_some hp
  have hpeers := peer?_insert hs (take?_fixed ht).2.1
  exact hn.of_peers (fun x _ hx => hpeers x ▸ hx) (Nat.le_refl _)

theorem Numbered.writes (hn : h.Numbered) {c : ConnectionHandle} (htcp : c.protocol = .tcp)
    (data : Bytes) : (h.act (.request (.write c data))).Numbered := by
  obtain ⟨protocol, id, own, peer⟩ := c
  cases htcp
  have hact : h.act (.request (.write ⟨.tcp, id, own, peer⟩ data)) = (h.writeStream id data).2 :=
    rfl
  rcases writeStream_cases h id data with ⟨f, hf⟩ | ⟨s, -, -, -, hok⟩
  · rw [hact, hf]
    exact hn
  · rw [hact, hok]
    have hpeers := peer?_pushSegment h s.peer (.data data)
    exact hn.of_peers (fun x _ hx => hpeers x ▸ hx) (Nat.le_refl _)

theorem Numbered.request (hn : h.Numbered) (q : Request) : (h.act (.request q)).Numbered := by
  cases hq : onStreams q with
  | false => exact (keepsStreams_request hq).numbered hn
  | true =>
    rcases onStreams_cases hq with ⟨own, peer, rfl⟩ | ⟨c, size, hp, rfl⟩ | ⟨c, data, hp, rfl⟩
    · exact hn.dials own peer
    · exact hn.reads hp size
    · exact hn.writes hp data

theorem Numbered.act (hn : h.Numbered) (a : HostAct) : (h.act a).Numbered := by
  cases a with
  | request q => exact hn.request q
  | close x => exact hn.close x
  | drop x => exact drop_induct x (hn.discard x) fun y _ _ hg => hg.discard y
  | serve url => exact (keepsStreams_serve h url).numbered hn
  | addName | log | takeLogs => exact hn

theorem Numbered.acts (hn : h.Numbered) (l : List HostAct) : (h.acts l).Numbered := by
  induction l generalizing h with
  | nil => exact hn
  | cons a l ih => exact ih (hn.act a)

theorem numbered_start : Numbered {} := by
  intro x y hx
  cases hx

/-! ### Bytes over a run -/

/-- What an act gives stream `w` to carry. -/
def written (h : InProcessHost) (w : Nat) : HostAct → Bytes
  | .request (.write c data) =>
    if c.resource = .stream w then
      match (h.write c data).1 with
      | .ok _ => data
      | .error _ => []
    else []
  | _ => []

/-- What an act reads from stream `r`. -/
def taken (h : InProcessHost) (r : Nat) : HostAct → Bytes
  | .request (.read c size) =>
    if c.resource = .stream r then
      match h.read? c size with
      | some (.ok bytes, _) => bytes
      | _ => []
    else []
  | _ => []

/-- What acts come to, one after the other. -/
def gathered (part : InProcessHost → HostAct → Bytes) (h : InProcessHost) : List HostAct → Bytes
  | [] => []
  | a :: rest => part h a ++ gathered part (h.act a) rest

theorem resource_of_onStreams {c : ConnectionHandle} (hc : (c.protocol == .tcp) = false)
    (id : Nat) : c.resource ≠ .stream id := by
  obtain ⟨protocol, n, own, peer⟩ := c
  cases protocol with
  | tcp => cases hc
  | udp => simp [ConnectionHandle.resource]

theorem written_off {q : Request} (hq : onStreams q = false) : h.written w (.request q) = [] := by
  cases q with
  | write c data => exact if_neg (resource_of_onStreams hq w)
  | _ => rfl

theorem taken_off {q : Request} (hq : onStreams q = false) : h.taken r (.request q) = [] := by
  cases q with
  | read c size => exact if_neg (resource_of_onStreams hq r)
  | _ => rfl

theorem Carries.keeps (hc : h.Carries w r out inn) {a : HostAct}
    (hk : KeepsStreams h (h.act a)) (hw : h.written w a = []) (ht : h.taken r a = []) :
    (h.act a).Carries w r (out ++ h.written w a) (inn ++ h.taken r a) := by
  rw [hw, ht, List.append_nil, List.append_nil]
  exact hk.carries hc

theorem Carries.dials (hc : h.Carries w r out inn) (hn : h.Numbered) (own : Option NetAddress)
    (peer : NetAddress) : (h.act (.request (.dial .tcp own peer))).Carries w r out inn := by
  refine act_request_induct (motive := fun g => g.Carries w r out inn) _ hc fun answer h' hp => ?_
  rcases dialStream_eq_some hp with ⟨f, -, rfl⟩ | ⟨b, next, l, -, -, rfl⟩ |
    ⟨next, slots, streams, -, rfl, -, hfind⟩
  · exact hc
  · exact hc.dial hn rfl
  · exact hc.undial hn ⟨rfl, hfind⟩

theorem Carries.reads (hc : h.Carries w r out inn) {c : ConnectionHandle} (htcp : c.protocol = .tcp)
    (size : Nat) : (h.act (.request (.read c size))).Carries w r out
      (inn ++ h.taken r (.request (.read c size))) := by
  obtain ⟨protocol, id, own, peer⟩ := c
  cases htcp
  have hres : (ConnectionHandle.mk .tcp id own peer).resource = .stream r ↔ id = r := by
    simp [ConnectionHandle.resource]
  cases hp : h.readStream? id size with
  | none =>
    have hact : h.act (.request (.read ⟨.tcp, id, own, peer⟩ size)) = h := act_request_of_none hp
    have htaken : h.taken r (.request (.read ⟨.tcp, id, own, peer⟩ size)) = [] := by
      simp only [taken, read?, hp, ite_self]
    rw [hact, htaken, List.append_nil]
    exact hc
  | some result =>
    obtain ⟨answer, h'⟩ := result
    have hact : h.act (.request (.read ⟨.tcp, id, own, peer⟩ size)) = h' := act_request hp
    have htaken : h.taken r (.request (.read ⟨.tcp, id, own, peer⟩ size)) =
        if id = r then answer.toOption.getD [] else [] := by
      simp only [taken, read?, hp, hres]
      cases answer <;> rfl
    obtain ⟨s, s', hs, ht, rfl⟩ := readStream?_eq_some hp
    rw [hact, htaken]
    exact hc.read hs ht

theorem Carries.writes (hc : h.Carries w r out inn) {c : ConnectionHandle}
    (htcp : c.protocol = .tcp) (data : Bytes) : (h.act (.request (.write c data))).Carries w r
      (out ++ h.written w (.request (.write c data))) inn := by
  obtain ⟨protocol, id, own, peer⟩ := c
  cases htcp
  have hres : (ConnectionHandle.mk .tcp id own peer).resource = .stream w ↔ id = w := by
    simp [ConnectionHandle.resource]
  have hact : h.act (.request (.write ⟨.tcp, id, own, peer⟩ data)) = (h.writeStream id data).2 :=
    rfl
  rcases writeStream_cases h id data with ⟨f, hf⟩ | ⟨s, hs, hopen, -, hok⟩
  · have hwritten : h.written w (.request (.write ⟨.tcp, id, own, peer⟩ data)) = [] := by
      simp only [written, InProcessHost.write, hf, ite_self]
    rw [hact, hf, hwritten, List.append_nil]
    exact hc
  · have hwritten : h.written w (.request (.write ⟨.tcp, id, own, peer⟩ data)) =
        if id = w then data else [] := by
      simp only [written, InProcessHost.write, hok, hres]
    rw [hact, hok, hwritten]
    exact hc.write data hs hopen

theorem Carries.request (hc : h.Carries w r out inn) (hn : h.Numbered) (q : Request) :
    (h.act (.request q)).Carries w r (out ++ h.written w (.request q))
      (inn ++ h.taken r (.request q)) := by
  cases hq : onStreams q with
  | false => exact hc.keeps (keepsStreams_request hq) (written_off hq) (taken_off hq)
  | true =>
    rcases onStreams_cases hq with ⟨own, peer, rfl⟩ | ⟨c, size, hp, rfl⟩ | ⟨c, data, hp, rfl⟩
    · simpa only [written, taken, List.append_nil] using hc.dials hn own peer
    · simpa only [written, List.append_nil] using hc.reads hp size
    · simpa only [taken, List.append_nil] using hc.writes hp data

/-- The side that reads is not closed, and not dropped, by itself or with who has it waiting. -/
theorem Carries.act (hc : h.Carries w r out inn) (hn : h.Numbered) (a : HostAct)
    (hclose : a ≠ .close (.stream r))
    (hdrop : ∀ x, a = .drop x → x ≠ .stream r ∧ .stream r ∉ h.queued x) :
    (h.act a).Carries w r (out ++ h.written w a) (inn ++ h.taken r a) := by
  cases a with
  | request q => exact hc.request hn q
  | close x =>
    by_cases hx : ∃ id, x = .stream id
    · obtain ⟨id, rfl⟩ := hx
      simp only [written, taken, List.append_nil]
      exact hc.close fun hid => hclose (by rw [hid])
    · have hk : KeepsStreams h (h.close x) := keepsStreams_close fun id he => hx ⟨id, he⟩
      exact hc.keeps hk rfl rfl
  | drop x =>
    simp only [written, taken, List.append_nil]
    obtain ⟨hx, hqueued⟩ := hdrop x rfl
    exact hc.drop hx hqueued
  | serve url => exact hc.keeps (keepsStreams_serve h url) rfl rfl
  | addName | log | takeLogs => exact hc.keeps ⟨rfl, Nat.le_refl _⟩ rfl rfl

theorem Carries.acts (hc : h.Carries w r out inn) (hn : h.Numbered) (l : List HostAct)
    (hl : ∀ a ∈ l, a ≠ .close (.stream r) ∧ a ≠ .drop (.stream r))
    (hqueue : ∀ before x after, l = before ++ .drop x :: after →
      .stream r ∉ (h.acts before).queued x) :
    (h.acts l).Carries w r (out ++ h.gathered (written · w) l)
      (inn ++ h.gathered (taken · r) l) := by
  induction l generalizing h out inn with
  | nil => simpa only [InProcessHost.acts, gathered, List.foldl_nil, List.append_nil] using hc
  | cons a l ih =>
    obtain ⟨hclose, hdrop⟩ := hl a List.mem_cons_self
    have hact := hc.act hn a hclose fun x hx =>
      ⟨fun he => hdrop (hx.trans (congrArg _ he)), hqueue [] x l (congrArg (· :: l) hx)⟩
    have hnext := ih hact (hn.act a) (fun b hb => hl b (List.mem_cons_of_mem _ hb))
      fun before x after he => hqueue (a :: before) x after (congrArg (a :: ·) he)
    simpa only [InProcessHost.acts, List.foldl_cons, gathered, List.append_assoc] using hnext

/-- A side that is not there gives nothing to read. -/
theorem Gone.taken_eq (hg : Gone (.stream r) h) (a : HostAct) : h.taken r a = [] := by
  unfold taken
  split
  · rename_i c size
    obtain ⟨protocol, id, own, peer⟩ := c
    split
    · rename_i hr
      cases protocol with
      | udp => cases hr
      | tcp =>
        cases hr
        have habsent : h.streams.find? id = none := Option.map_eq_none_iff.1 hg.absent
        have hnone : h.read? ⟨.tcp, id, own, peer⟩ size = none := by
          change h.readStream? id size = none
          rw [readStream?, habsent]
          rfl
        rw [hnone]
    · rfl
  · rfl

/-- A side that nobody closes is open, or gone with the listener that it waited at. -/
inductive Trails (h : InProcessHost) (w r : Nat) (out inn : Bytes) : Prop where
  | carries (carries : h.Carries w r out inn)
  | gone (gone : Gone (.stream r) h) (first : inn <+: out)

theorem Trails.first (hf : h.Trails w r out inn) : inn <+: out := by
  cases hf with
  | carries carries =>
    obtain ⟨s, rest, -, -, -, hout⟩ := carries.held
    exact ⟨rest, hout.symm⟩
  | gone gone first => exact first

theorem Trails.act (hf : h.Trails w r out inn) (hn : h.Numbered) (a : HostAct)
    (hclose : a ≠ .close (.stream r)) (hdrop : a ≠ .drop (.stream r)) :
    (h.act a).Trails w r (out ++ h.written w a) (inn ++ h.taken r a) := by
  cases hf with
  | gone gone first =>
    refine .gone (gone.act a) ?_
    rw [gone.taken_eq, List.append_nil]
    exact first.trans (List.prefix_append _ _)
  | carries carries =>
    by_cases hqueued : ∃ x, a = .drop x ∧ .stream r ∈ h.queued x
    · obtain ⟨x, rfl, hr⟩ := hqueued
      have hold : r < h.nextId := (hn r w carries.linked.reader).1
      refine .gone (gone_drop_of_queued hr hold) ?_
      simpa only [written, taken, List.append_nil] using (Trails.carries carries).first
    · refine .carries (carries.act hn a hclose fun x hx => ⟨?_, fun hr => hqueued ⟨x, hx, hr⟩⟩)
      exact fun he => hdrop (hx.trans (congrArg _ he))

theorem Trails.acts (hf : h.Trails w r out inn) (hn : h.Numbered) (l : List HostAct)
    (hl : ∀ a ∈ l, a ≠ .close (.stream r) ∧ a ≠ .drop (.stream r)) :
    (h.acts l).Trails w r (out ++ h.gathered (written · w) l)
      (inn ++ h.gathered (taken · r) l) := by
  induction l generalizing h out inn with
  | nil => simpa only [InProcessHost.acts, gathered, List.foldl_nil, List.append_nil] using hf
  | cons a l ih =>
    obtain ⟨hclose, hdrop⟩ := hl a List.mem_cons_self
    have hnext := ih (hf.act hn a hclose hdrop) (hn.act a)
      fun b hb => hl b (List.mem_cons_of_mem _ hb)
    simpa only [InProcessHost.acts, List.foldl_cons, gathered, List.append_assoc] using hnext

/-- What the next read of an open side comes to, told from the bytes written and read so far. -/
theorem Carries.next_read (hc : h.Carries w r out inn) {c : ConnectionHandle}
    (hr : c.resource = .stream r) (size : Nat) :
    h.refuses (.read c size) = false ∧
    (∀ bytes h', h.poll? (.read c size) = some (.ok bytes, h') → 0 < size → bytes ≠ []) ∧
    (∀ f h', h.poll? (.read c size) = some (.error f, h') →
      f = .connectionClosed ∧ inn = out ∧ h.isOpen w = false) ∧
    (h.poll? (.read c size) = none → inn = out ∧ h.isOpen w = true) := by
  obtain ⟨protocol, id, own, peer⟩ := c
  cases protocol with
  | udp => cases hr
  | tcp =>
    cases hr
    obtain ⟨s, rest, hs, hopen, hholds, hout⟩ := hc.held
    have hpoll : h.poll? (.read ⟨.tcp, id, own, peer⟩ size) = h.readStream? id size := rfl
    have hread : h.readStream? id size = (Stream.take? s size).map fun taken =>
        (taken.1, { h with streams := h.streams.insert id taken.2 }) := by
      simp only [readStream?, hs, Option.bind_eq_bind, Option.bind_some]
      cases Stream.take? s size <;> rfl
    have hreads := hholds.reads size
    rw [hpoll, hread]
    refine ⟨?_, ?_⟩
    · simp [refuses, Request.waits?, ConnectionHandle.resource, isClosed, hs, hopen]
    · generalize Stream.take? s size = result at hreads
      cases hreads with
      | waits empty open_ =>
        have hopen : h.isOpen w = true := by simpa using open_
        refine ⟨by simp, by simp, fun _ => ⟨?_, hopen⟩⟩
        rw [hout, empty, List.append_nil]
      | finds empty shut_ s' holds =>
        have hshut : h.isOpen w = false := by simpa using shut_
        refine ⟨by simp, ?_, by simp⟩
        intro f h' hp
        cases hp
        refine ⟨rfl, ?_, hshut⟩
        rw [hout, empty, List.append_nil]
      | gives got more split some_ s' holds =>
        refine ⟨?_, by simp, by simp⟩
        intro bytes h' hp
        cases hp
        exact some_

/-- On a pair of streams from one `dial`, whatever is done to the host that neither closes nor drops
one side: what this side has read is the beginning of what the other side has written, a read into a
buffer that is not empty gives some bytes, and the end is found only behind all that was written.
The far side is there to be read unless it waits at a listener that is dropped. -/
theorem read_bytes_are_prefix_of_written (earlier : List HostAct) {own : Option NetAddress}
    {peer : NetAddress} {c : ConnectionHandle}
    (hd : (acts {} earlier).dialStream own peer = some (.ok c, h)) (hpeer : h.peer? r = some w)
    (hc : c.id = w ∨ c.id = r) (l : List HostAct)
    (hl : ∀ a ∈ l, a ≠ .close (.stream r) ∧ a ≠ .drop (.stream r)) :
    h.gathered (taken · r) l <+: h.gathered (written · w) l ∧
    ((c.id = w → ∀ before x after, l = before ++ .drop x :: after →
      .stream r ∉ (h.acts before).queued x) →
    ∀ (reader : ConnectionHandle) (size : Nat), reader.resource = .stream r →
      (h.acts l).refuses (.read reader size) = false ∧
      (∀ bytes h', (h.acts l).poll? (.read reader size) = some (.ok bytes, h') → 0 < size →
        bytes ≠ []) ∧
      (∀ f h', (h.acts l).poll? (.read reader size) = some (.error f, h') →
        f = .connectionClosed ∧ h.gathered (taken · r) l = h.gathered (written · w) l ∧
          (h.acts l).isOpen w = false) ∧
      ((h.acts l).poll? (.read reader size) = none →
        h.gathered (taken · r) l = h.gathered (written · w) l ∧
          (h.acts l).isOpen w = true)) := by
  have hearlier : (acts {} earlier).Numbered := numbered_start.acts earlier
  have hact : (acts {} earlier).act (.request (.dial .tcp own peer)) = h := act_request hd
  have hnumbered : h.Numbered := hact ▸ hearlier.act _
  rcases dialStream_eq_some hd with ⟨f, hf, -⟩ | ⟨b, next, n, hok, -, hh⟩ |
    ⟨next, slots, streams, hf, -⟩
  · cases hf
  · cases hok
    have hstart : h.Carries w r [] [] := by
      subst hh
      exact carries_dialed hearlier rfl hpeer hc
    refine ⟨?_, fun hqueue reader size hr => ?_⟩
    · simpa only [List.nil_append] using ((Trails.carries hstart).acts hnumbered l hl).first
    · have hqueue : ∀ before x after, l = before ++ .drop x :: after →
          .stream r ∉ (h.acts before).queued x := by
        rcases hc with hw | hr
        · exact hqueue hw
        · -- the near side waits nowhere
          intro before x _ _
          have hr : (acts {} earlier).nextId = r := hr
          have hold : r < h.nextId := (hnumbered r w hpeer).1
          have hnear : Unqueued (.stream r) h :=
            hact ▸ unqueued_near earlier (.stream r) hr.symm (by rw [hact]; exact hold)
          exact (hnear.acts before).nowhere x
      have hcarries := hstart.acts hnumbered l hl hqueue
      simp only [List.nil_append] at hcarries
      exact hcarries.next_read hr size
  · cases hf

/-- Writes, one of them empty, then the end, read by the other side in pieces. -/
theorem read_bytes_are_prefix_of_written_in_pieces :
    let peer : NetAddress := ⟨.v4 .loopback, 7001⟩
    let h := (acts {} [.request (.listen .tcp peer)]).act (.request (.dial .tcp none peer))
    let writer : ConnectionHandle := ⟨.tcp, 1, ⟨.v4 .loopback, 49152⟩, peer⟩
    let reader : ConnectionHandle := ⟨.tcp, 2, peer, writer.own⟩
    let l : List HostAct := [.request (.write writer [1, 2, 3]), .request (.read reader 2),
      .request (.write writer []), .request (.write writer [4]), .close writer.resource,
      .request (.read reader 8)]
    h.gathered (taken · 2) l = [1, 2, 3] ∧ h.gathered (written · 1) l = [1, 2, 3, 4] ∧
      h.gathered (taken · 2) l <+: h.gathered (written · 1) l := by
  intro peer h writer reader l
  have hd : (acts {} [.request (.listen .tcp peer)]).dialStream none peer = some (.ok writer, h) :=
    rfl
  refine ⟨by decide, by decide, ?_⟩
  exact (read_bytes_are_prefix_of_written _ hd (by decide) (Or.inl rfl) l (by decide)).1

end InProcessHost

end SyscallBridge
