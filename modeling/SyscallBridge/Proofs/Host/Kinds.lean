import SyscallBridge.Proofs.Host.Run

/-!
# The kind of resource an act works on

Every act on the host works on one kind of resource at most, listeners and servers aside. The
streams, the datagram ports with their registry and the message channels are as before unless the
act works on that very kind.
-/

namespace SyscallBridge

/-- What goes with a dropped resource: the streams that stand in the queue of a listener and the
channels that stand in that of a server. -/
def Resource.dropKind : Resource → ResourceKind
  | .listener _ => .stream
  | .server _ => .channel
  | x => x.kind

def HostAct.kind? : HostAct → Option ResourceKind
  | .request q => q.kind?
  | .close x => some x.kind
  | .drop x => some x.dropKind
  | .serve _ | .addName .. | .log _ | .takeLogs => none

namespace InProcessHost

variable {h h' h'' : InProcessHost} {k : Option ResourceKind}

/-- Only resources of the one kind are touched, and no number is given back. -/
structure Spares (k : Option ResourceKind) (h h' : InProcessHost) : Prop where
  nextId : h.nextId ≤ h'.nextId
  streams : k ≠ some .stream → h'.streams = h.streams
  ports : k ≠ some .port → h'.ports = h.ports
  bound : k ≠ some .port → h'.bound = h.bound
  channels : k ≠ some .channel → h'.channels = h.channels

namespace Spares

theorem of_eq (nextId : h.nextId ≤ h'.nextId) (streams : h'.streams = h.streams)
    (ports : h'.ports = h.ports) (bound : h'.bound = h.bound)
    (channels : h'.channels = h.channels) : Spares k h h' :=
  ⟨nextId, fun _ => streams, fun _ => ports, fun _ => bound, fun _ => channels⟩

theorem refl (h : InProcessHost) : Spares k h h := of_eq (Nat.le_refl _) rfl rfl rfl rfl

theorem trans (h₁ : Spares k h h') (h₂ : Spares k h' h'') : Spares k h h'' where
  nextId := Nat.le_trans h₁.nextId h₂.nextId
  streams hk := (h₂.streams hk).trans (h₁.streams hk)
  ports hk := (h₂.ports hk).trans (h₁.ports hk)
  bound hk := (h₂.bound hk).trans (h₁.bound hk)
  channels hk := (h₂.channels hk).trans (h₁.channels hk)

theorem onStreams (nextId : h.nextId ≤ h'.nextId) (ports : h'.ports = h.ports)
    (bound : h'.bound = h.bound) (channels : h'.channels = h.channels) :
    Spares (some .stream) h h' :=
  ⟨nextId, fun hk => absurd rfl hk, fun _ => ports, fun _ => bound, fun _ => channels⟩

theorem onPorts (nextId : h.nextId ≤ h'.nextId) (streams : h'.streams = h.streams)
    (channels : h'.channels = h.channels) : Spares (some .port) h h' :=
  ⟨nextId, fun _ => streams, fun hk => absurd rfl hk, fun hk => absurd rfl hk, fun _ => channels⟩

theorem onChannels (nextId : h.nextId ≤ h'.nextId) (streams : h'.streams = h.streams)
    (ports : h'.ports = h.ports) (bound : h'.bound = h.bound) : Spares (some .channel) h h' :=
  ⟨nextId, fun _ => streams, fun _ => ports, fun _ => bound, fun hk => absurd rfl hk⟩

end Spares

theorem Served.spares {q : Request} {made : List Opening} {taken : Option (Resource × Nat)}
    (hs : Served h q made taken h') : Spares q.kind? h h' := by
  cases hs with
  | nothing => exact .refl h
  | searches | accepts | acceptsChannel => exact .of_eq (Nat.le_refl _) rfl rfl rfl rfl
  | listens => exact .of_eq (Nat.le_succ _) rfl rfl rfl rfl
  | opensPort _ kind => exact kind ▸ .onPorts (Nat.le_succ _) rfl rfl
  | dials _ kind | undials _ kind => exact kind ▸ .onStreams (Nat.le_add_right _ 2) rfl rfl rfl
  | dialsChannel kind | undialsChannel kind =>
    exact kind ▸ .onChannels (Nat.le_add_right _ 2) rfl rfl rfl
  | writes kind | reads kind => exact kind ▸ .onStreams (Nat.le_refl _) rfl rfl rfl
  | sends kind | receives kind => exact kind ▸ .onPorts (Nat.le_refl _) rfl rfl
  | sendsMessage kind | receivesMessage kind =>
    exact kind ▸ .onChannels (Nat.le_refl _) rfl rfl rfl

theorem spares_request (q : Request) : Spares q.kind? h (h.act (.request q)) :=
  act_request_induct q (.refl h) fun _ _ hp => (served_poll? hp).spares

theorem spares_close (h : InProcessHost) (x : Resource) : Spares (some x.kind) h (h.close x) := by
  cases x with
  | listener id =>
    simp only [InProcessHost.close, closeListener]
    split
    · exact .refl h
    · split
      · exact .refl h
      · exact .of_eq (Nat.le_refl _) rfl rfl rfl rfl
  | stream id =>
    simp only [InProcessHost.close, closeStream]
    split
    · exact .refl h
    · split
      · exact .refl h
      · exact .onStreams (Nat.le_refl _) rfl rfl rfl
  | port id =>
    simp only [InProcessHost.close, closePort]
    split
    · exact .refl h
    · split
      · exact .refl h
      · exact .onPorts (Nat.le_refl _) rfl rfl
  | channel id =>
    simp only [InProcessHost.close, closeChannel]
    split
    · exact .refl h
    · split
      · exact .refl h
      · exact .onChannels (Nat.le_refl _) rfl rfl rfl
  | server => exact .refl h

theorem spares_forget (h : InProcessHost) (x : Resource) :
    Spares (some x.kind) h (h.forget x) := by
  cases x with
  | listener | server => exact .of_eq (Nat.le_refl _) rfl rfl rfl rfl
  | stream => exact .onStreams (Nat.le_refl _) rfl rfl rfl
  | port => exact .onPorts (Nat.le_refl _) rfl rfl
  | channel => exact .onChannels (Nat.le_refl _) rfl rfl rfl

theorem spares_discard (h : InProcessHost) (x : Resource) :
    Spares (some x.kind) h (h.discard x) := (spares_close h x).trans (spares_forget _ x)

theorem spares_drop (h : InProcessHost) (x : Resource) : Spares (some x.dropKind) h (h.drop x) := by
  have hfirst : Spares (some x.dropKind) h (h.discard x) := by
    have hone := spares_discard h x
    cases x with
    | listener | server =>
      exact .of_eq hone.nextId (hone.streams (by simp [Resource.kind]))
        (hone.ports (by simp [Resource.kind])) (hone.bound (by simp [Resource.kind]))
        (hone.channels (by simp [Resource.kind]))
    | stream | port | channel => exact hone
  refine drop_induct x hfirst fun y hy g hg => hg.trans ?_
  have hkind : x.dropKind = y.kind := by
    rcases mem_queued hy with ⟨l, id, rfl, rfl⟩ | ⟨s, id, rfl, rfl⟩ <;> rfl
  exact hkind ▸ spares_discard g y

theorem spares_act (h : InProcessHost) (a : HostAct) : Spares a.kind? h (h.act a) := by
  cases a with
  | request q => exact spares_request q
  | close x => exact spares_close h x
  | drop x => exact spares_drop h x
  | serve url =>
    change Spares _ h (h.serve url).2
    unfold serve
    split
    · exact .refl h
    · exact .of_eq (Nat.le_succ _) rfl rfl rfl rfl
  | addName | log | takeLogs => exact .of_eq (Nat.le_refl _) rfl rfl rfl rfl

theorem nextId_le_acts (h : InProcessHost) (l : List HostAct) : h.nextId ≤ (h.acts l).nextId := by
  induction l generalizing h with
  | nil => exact Nat.le_refl _
  | cons a l ih => exact Nat.le_trans (spares_act h a).nextId (ih _)

end InProcessHost

end SyscallBridge
