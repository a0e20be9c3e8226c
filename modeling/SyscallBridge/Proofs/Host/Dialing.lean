import SyscallBridge.Proofs.Host.Arrivals
import SyscallBridge.Proofs.Host.Queues

/-!
# Dials under way

A dial first finds its listener or server and makes both sides, and then hands over the far one. In
between anything may happen to the host. Whoever was found may be gone by then, and both sides are
dropped.
-/

namespace SyscallBridge

open InProcess

/-- A dial that has made both sides and has not handed over the far one. -/
inductive HostDial where
  | stream (d : InProcessHost.StreamDial)
  | channel (d : InProcessHost.ChannelDial)
  deriving DecidableEq, Repr

namespace HostDial

/-- Who was found. -/
def target : HostDial → Resource
  | stream d => .listener d.listener
  | channel d => .server d.server

def far : HostDial → Resource
  | stream d => .stream d.far.id
  | channel d => .channel d.far.id

def near : HostDial → Resource
  | stream d => .stream d.near.id
  | channel d => .channel d.near.id

def deliver (h : InProcessHost) : HostDial → InProcessHost
  | stream d => (h.deliverStream d).2
  | channel d => (h.deliverChannel d).2

end HostDial

/-- A host and the dials that are under way in it. -/
structure BusyHost where
  host : InProcessHost := {}
  dials : List HostDial := []

inductive HostMove where
  | act (a : HostAct)
  | beginStream (own : Option NetAddress) (peer : NetAddress)
  | beginChannel (url : String)
  /-- The dial of this place in the list goes on to its end. -/
  | deliver (i : Nat)
  deriving DecidableEq, Repr

namespace BusyHost

def begun {δ : Type} (s : BusyHost) (dial : δ → HostDial) :
    Except HostFailure δ × InProcessHost → BusyHost
  | (.ok d, host) => ⟨host, s.dials ++ [dial d]⟩
  | (.error _, host) => { s with host }

def move (s : BusyHost) : HostMove → BusyHost
  | .act a => { s with host := s.host.act a }
  | .beginStream own peer =>
    match s.host.startStream? own peer with
    | some started => s.begun .stream started
    | none => s
  | .beginChannel url => s.begun .channel (s.host.startChannel url)
  | .deliver i =>
    match s.dials[i]? with
    | some d => ⟨d.deliver s.host, s.dials.eraseIdx i⟩
    | none => s

def run (s : BusyHost) (moves : List HostMove) : BusyHost := moves.foldl move s

end BusyHost

namespace InProcessHost

variable {h h' : InProcessHost} {d : HostDial} {x y : Resource}

/-! ### The first step -/

/-- Both sides are there and open, and nothing else has changed. -/
structure Begins (h : InProcessHost) (d : HostDial) (h' : InProcessHost) : Prop where
  brings : Brings h [⟨d.far, none⟩, ⟨d.near, none⟩] h'
  inboxes : KeepsInboxes h h'
  ports : h'.ports = h.ports
  bound : h'.bound = h.bound
  listeners : h'.listeners = h.listeners
  servers : h'.servers = h.servers
  serving : h'.serving = h.serving

theorem begins_stream {own : Option NetAddress} {peer : NetAddress} {d : StreamDial}
    (hs : h.startStream? own peer = some (.ok d, h')) : Begins h (.stream d) h' := by
  rcases startStream?_eq_some hs with ⟨-, hd, -⟩ | ⟨b, next, l, -, -, hd, rfl⟩
  · cases hd
  · cases hd
    exact {
      brings := .pair (x := .stream h.nextId) (y := .stream (h.nextId + 1)) rfl rfl rfl rfl
        (entryOf_dialed h) rfl
      inboxes := keepsInboxes_fresh_pair (x := .stream h.nextId) (y := .stream (h.nextId + 1)) rfl
        rfl rfl (inbox?_dialed h)
      ports := rfl
      bound := rfl
      listeners := rfl
      servers := rfl
      serving := rfl }

theorem begins_channel {url : String} {d : ChannelDial}
    (hs : h.startChannel url = (.ok d, h')) : Begins h (.channel d) h' := by
  rcases startChannel_cases h url with ⟨-, hstart⟩ | ⟨server, -, hstart⟩
  · cases hstart.symm.trans hs
  · cases hstart.symm.trans hs
    exact {
      brings := .pair (x := .channel h.nextId) (y := .channel (h.nextId + 1)) rfl rfl rfl rfl
        (entryOf_dialedChannels h) rfl
      inboxes := keepsInboxes_fresh_pair (x := .channel h.nextId) (y := .channel (h.nextId + 1)) rfl
        rfl rfl (inbox?_dialedChannels h)
      ports := rfl
      bound := rfl
      listeners := rfl
      servers := rfl
      serving := rfl }

/-! ### The second step -/

/-- The far side put into the queue of whoever was found. -/
def handOver (h : InProcessHost) : HostDial → InProcessHost
  | .stream d => { h with
    listeners := h.listeners.modify d.listener fun l =>
      { l with queue := l.queue ++ [.connection d.far] } }
  | .channel d => { h with
    servers := h.servers.modify d.server fun s => { s with queue := s.queue ++ [d.far] } }

theorem deliver_cases (h : InProcessHost) (d : HostDial) :
    ((h.inbox? d.target).isSome ∧ d.deliver h = h.handOver d) ∨
      h.inbox? d.target = none ∧ d.deliver h = h.acts [.drop d.far, .drop d.near] := by
  cases d with
  | stream d =>
    rcases deliverStream_cases h d with ⟨hthere, hok⟩ | ⟨hgone, hok⟩
    · refine Or.inl ⟨?_, congrArg Prod.snd hok⟩
      simpa [Assoc.contains, inbox?, HostDial.target] using hthere
    · refine Or.inr ⟨?_, congrArg Prod.snd hok⟩
      simpa [Assoc.contains, inbox?, HostDial.target] using hgone
  | channel d =>
    rcases deliverChannel_cases h d with ⟨hthere, hok⟩ | ⟨hgone, hok⟩
    · refine Or.inl ⟨?_, congrArg Prod.snd hok⟩
      simpa [Assoc.contains, inbox?, HostDial.target] using hthere
    · refine Or.inr ⟨?_, congrArg Prod.snd hok⟩
      simpa [Assoc.contains, inbox?, HostDial.target] using hgone

theorem inbox?_handOver (h : InProcessHost) (d : HostDial) (x : Resource) :
    (h.handOver d).inbox? x = h.inbox? x := by
  cases d with
  | stream d => exact inbox?_queueArrival h d.listener d.far x
  | channel d => exact inbox?_queueChannel h d.server d.far x

theorem brings_handOver (h : InProcessHost) (d : HostDial) : Brings h [] (h.handOver d) := by
  cases d with
  | stream d =>
    exact .keeps rfl (Nat.le_refl _) (entryOf_queueArrival h d.listener d.far) rfl
  | channel d =>
    exact .keeps rfl (Nat.le_refl _) (entryOf_queueChannel h d.server d.far) rfl

/-- A dial that succeeds at once takes both steps. -/
theorem dialStream_steps {own : Option NetAddress} {peer : NetAddress} {c : ConnectionHandle}
    (hd : h.dialStream own peer = some (.ok c, h')) :
    ∃ d g, h.startStream? own peer = some (.ok d, g) ∧ d.near = c ∧
      (g.inbox? (HostDial.stream d).target).isSome ∧ h' = g.handOver (.stream d) := by
  simp only [dialStream, Option.bind_eq_bind, Option.bind_eq_some_iff] at hd
  obtain ⟨⟨started, g⟩, hstart, hrest⟩ := hd
  cases started with
  | error f => cases hrest
  | ok d =>
    rcases deliverStream_cases g d with ⟨hthere, hok⟩ | ⟨-, hfails⟩
    · cases hok.symm.trans (Option.some.inj hrest)
      refine ⟨d, g, hstart, rfl, ?_, rfl⟩
      simpa [Assoc.contains, inbox?, HostDial.target] using hthere
    · cases hfails.symm.trans (Option.some.inj hrest)

theorem dialChannel_steps {url : String} {c : ChannelHandle}
    (hd : h.dialChannel url = (.ok c, h')) :
    ∃ d g, h.startChannel url = (.ok d, g) ∧ d.near = c ∧
      (g.inbox? (HostDial.channel d).target).isSome ∧ h' = g.handOver (.channel d) := by
  unfold dialChannel at hd
  split at hd
  · cases hd
  · rename_i d g hstart
    rcases deliverChannel_cases g d with ⟨hthere, hok⟩ | ⟨-, hfails⟩
    · cases hok.symm.trans hd
      refine ⟨d, g, hstart, rfl, ?_, rfl⟩
      simpa [Assoc.contains, inbox?, HostDial.target] using hthere
    · cases hfails.symm.trans hd

/-- What every act keeps, and both steps of a dial, is kept by a move. -/
theorem move_induct {motive : InProcessHost → Prop} {s : BusyHost} (start : motive s.host)
    (acts : ∀ g a, motive g → motive (g.act a))
    (begins : ∀ g d g', Begins g d g' → motive g → motive g')
    (hands : ∀ g d, motive g → motive (g.handOver d)) (m : HostMove) :
    motive (s.move m).host := by
  cases m with
  | act a => exact acts _ a start
  | beginStream own peer =>
    simp only [BusyHost.move]
    split
    · rename_i started hstart
      obtain ⟨started, host⟩ := started
      rcases startStream?_eq_some hstart with ⟨-, rfl, rfl⟩ | ⟨b, next, l, -, -, rfl, -⟩
      · exact start
      · exact begins _ _ _ (begins_stream hstart) start
    · exact start
  | beginChannel url =>
    simp only [BusyHost.move]
    rcases startChannel_cases s.host url with ⟨-, hstart⟩ | ⟨server, -, hstart⟩
    · rw [hstart]
      exact start
    · have hbegins := begins_channel hstart
      rw [hstart]
      exact begins _ _ _ hbegins start
  | deliver i =>
    simp only [BusyHost.move]
    split
    · rename_i d _
      rcases deliver_cases s.host d with ⟨-, hok⟩ | ⟨-, hok⟩
      · exact hok ▸ hands _ d start
      · -- whoever was found is there no more
        rw [hok]
        exact acts (s.host.act (.drop d.far)) (.drop d.near) (acts s.host (.drop d.far) start)
    · exact start

/-! ### What moves keep -/

theorem Registered.begins (hr : h.Registered) (hb : Begins h d h') : h'.Registered :=
  hr.move (.keeps hb.ports hb.bound hb.brings.nextId)

theorem Registered.hands (hr : h.Registered) (d : HostDial) : (h.handOver d).Registered := by
  cases d <;> exact hr.move (.keeps rfl rfl (Nat.le_refl _))

theorem Marked.hands (hm : h.Marked) (d : HostDial) : (h.handOver d).Marked :=
  hm.keeps (keepsInboxes_of_eq (brings_handOver h d).nextId (inbox?_handOver h d))

/-- A resource that is closed, or not there any more, is so for good. -/
theorem Shut.run {s : BusyHost} (hs : Shut x s.host) (moves : List HostMove) :
    Shut x (s.run moves).host := by
  induction moves generalizing s with
  | nil => exact hs
  | cons m moves ih =>
    refine ih (move_induct hs (fun g a hg => hg.act a) (fun g d g' hb hg => hg.keeps hb.inboxes)
      (fun g d hg => ?_) m)
    exact hg.keeps (keepsInboxes_of_eq (brings_handOver g d).nextId (inbox?_handOver g d))

theorem Gone.run {s : BusyHost} (hs : Gone x s.host) (moves : List HostMove) :
    Gone x (s.run moves).host := by
  induction moves generalizing s with
  | nil => exact hs
  | cons m moves ih =>
    refine ih (move_induct hs (fun g a hg => hg.act a) (fun g d g' hb hg => hg.keeps hb.inboxes)
      (fun g d hg => ?_) m)
    exact hg.keeps (keepsInboxes_of_eq (brings_handOver g d).nextId (inbox?_handOver g d))

/-- To drop what is not there changes nothing. -/
theorem Gone.drop_eq_self (hg : Gone x h) : h.drop x = h := by
  have hnone := hg.absent
  have hclose : h.close x = h := hg.shut.close_eq_self
  have hforget : h.forget x = h := by
    cases x <;>
      simp_all [inbox?, forget, Assoc.erase_of_find?_eq_none]
  have hqueue : h.queued x = [] := queued_of_absent hnone
  rw [drop, discard, hclose, hforget, hqueue]
  rfl

end InProcessHost

end SyscallBridge
