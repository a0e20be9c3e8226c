import SyscallBridge.Proofs.Hosted.Names
import SyscallBridge.Proofs.Hosted.Ownership
import SyscallBridge.Proofs.Process.Families

/-!
# The families of told addresses

On a host that only the process uses, every address that a call on a socket tells is of the family
of that socket: a request is made within the family of the socket that it is made for, and the host
answers it within the same family.
-/

namespace SyscallBridge

open InProcessHost

def InFlight.Within (p : Process) (h : InProcessHost) (c : InFlight) : Prop :=
  c.pending.Within p h c.answer

namespace Hosted

/-- All sockets, and all calls in flight with what they have been given, are within their
families. -/
structure InFamilies (s : Hosted) : Prop where
  host : s.host.InFamilies
  sockets : s.process.InFamilies s.host
  calls : ∀ c ∈ s.calls, c.Within s.process s.host

theorem inFamilies_create (settings : Settings) : (create settings).InFamilies where
  host := inFamilies_start
  sockets := Process.inFamilies_create settings
  calls := fun _ hc => nomatch hc

variable {s : Hosted} {event : HostedEvent} {others calls : List InFlight} {q : ProcessPending}

/-! ### Steps -/

/-- What is closed, dropped or logged leaves all families as they are. -/
theorem InFamilies.unasked (hi : s.InFamilies) {l : List HostAct} (hl : ∀ q, .request q ∉ l) :
    InFamilies { s with host := s.host.acts l } := by
  induction l generalizing s with
  | nil => exact hi
  | cons a l ih =>
    have ha : ∀ q, a ≠ .request q := fun q hq => hl q (hq ▸ List.mem_cons_self)
    have hfirst : InFamilies { s with host := s.host.act a } :=
      ⟨hi.host.act (keeps_of_not_request ha), hi.sockets.act a,
        fun c hc => (hi.calls c hc).act a⟩
    exact ih hfirst fun q hq => hl q (List.mem_cons_of_mem _ hq)

theorem InFamilies.turned (hi : s.InFamilies) (hs : s.Sound) {e : ProcessEvent}
    (resumed : (∃ c, e = .call c ∧ others = s.calls) ∨
      ∃ q a, e = .answer q a ∧ s.calls.Perm (⟨q, some a⟩ :: others)) :
    (s.turned e others).InFamilies := by
  obtain ⟨howns, hothers⟩ := hs.turn resumed
  obtain ⟨given, hmoves, -⟩ := howns.moves
  have he : e.Within s.process s.host := by
    rcases resumed with ⟨c, rfl, -⟩ | ⟨q, a, rfl, hperm⟩
    · trivial
    · exact hi.calls _ (hperm.mem_iff.2 List.mem_cons_self)
  have hturn : InFamilies { s.turned e others with host := s.host } := by
    refine ⟨hi.host, hi.sockets.moves he hmoves, fun c hc => ?_⟩
    rcases List.mem_append.1 hc with hold | hnew
    · exact (hi.calls c (hothers c hold)).moves hmoves
    · obtain ⟨q, hq, rfl⟩ := Process.Step.mem_asked hnew
      exact howns.pending_within hi.sockets he hq
  exact hturn.unasked (unasked_effects (s.process.turn e).effects).1

theorem InFamilies.answered {a : Except HostFailure q.request.Answer} {host : InProcessHost}
    (hi : s.InFamilies) (waited : s.calls.Perm (⟨q, none⟩ :: others))
    (answered : calls.Perm (⟨q, some a⟩ :: others))
    (served : s.host.poll? q.request = some (a, host)) : InFamilies { s with host, calls } := by
  have hq : q.Within s.process s.host none := hi.calls _ (waited.mem_iff.2 List.mem_cons_self)
  have hact := act_request served
  subst hact
  refine ⟨hi.host.act hq.keeps, hi.sockets.act (.request q.request), fun c hc => ?_⟩
  rcases mem_before waited answered hc with rfl | hold
  · cases q with
    | onSocket file q next =>
      obtain ⟨F, hfile, hwithin, -⟩ := hq
      refine ⟨F, hfile, hwithin.act (.request q.request), fun x hx => ?_⟩
      cases hx
      exact hwithin.brings hi.host served
    | resolving => trivial
  · exact ProcessPending.Within.act (hi.calls c hold) (.request q.request)

theorem InFamilies.failed {f : HostFailure} (hi : s.InFamilies)
    (waited : s.calls.Perm (⟨q, none⟩ :: others))
    (answered : calls.Perm (⟨q, some (.error f)⟩ :: others)) : InFamilies { s with calls } := by
  refine ⟨hi.host, hi.sockets, fun c hc => ?_⟩
  rcases mem_before waited answered hc with rfl | hold
  · have hq : q.Within s.process s.host none := hi.calls _ (waited.mem_iff.2 List.mem_cons_self)
    cases q with
    | onSocket file q next =>
      obtain ⟨F, hfile, hwithin, -⟩ := hq
      exact ⟨F, hfile, hwithin, fun x hx => nomatch hx⟩
    | resolving => trivial
  · exact hi.calls c hold

theorem InFamilies.collect (hi : s.InFamilies) : s.collect.InFamilies := by
  have hcollect : s.collect = { s with host := s.host.acts (s.unreachable.map .drop) } := by
    rw [← host_collect]
    rfl
  exact hcollect ▸ hi.unasked s.unasked_drops

theorem InFamilies.next (hi : s.InFamilies) (hs : s.Sound) (hown : ∀ a, event ≠ .elsewhere a) :
    (s.next event).InFamilies := by
  have hgoes := goes_next s event
  generalize s.next event = s' at hgoes
  cases hgoes with
  | rests => exact hi
  | turns _ resumed => exact hi.turned hs resumed
  | served _ waited answered served => exact hi.answered waited answered served
  | failed _ waited answered => exact hi.failed waited answered
  | collects => exact hi.collect
  | elsewhere a => exact absurd rfl (hown a)

theorem InFamilies.run {events : List HostedEvent} (hi : s.InFamilies) (hs : s.Sound)
    (hown : ∀ a, .elsewhere a ∉ events) : (s.run events).InFamilies := by
  induction events generalizing s with
  | nil => exact hi
  | cons event events ih =>
    refine ih (hi.next hs fun a ha => hown a (ha ▸ List.mem_cons_self)) (hs.next event)
      fun a ha => hown a (List.mem_cons_of_mem _ ha)

/-- A socket stays in its file, and keeps its family. -/
theorem Sound.hasFamily_next (hs : s.Sound) {f : Nat} {F : Family} (hf : s.process.HasFamily f F)
    (event : HostedEvent) : (s.next event).process.HasFamily f F := by
  have hgoes := goes_next s event
  generalize s.next event = s' at hgoes
  cases hgoes with
  | turns _ resumed =>
    obtain ⟨⟨⟨given, hmoves, -⟩, -⟩, -⟩ := hs.turn resumed
    exact hf.moves hmoves
  | rests | served | failed | collects | elsewhere => exact hf

/-! ### What is told -/

/-- The file of the socket that a call is made on, or that a call goes on with. -/
def socketFile? (s : Hosted) : HostedEvent → Option Nat
  | .call (.onSocket fd _) => (s.process.table.lookup fd).toOption
  | .resume i => s.calls[i]?.bind (·.pending.file?)
  | _ => none

/-- A call on a socket, whether it is over at once or goes on from an answer, is over with a turn
that tells and opens what is of the family of the socket alone. -/
theorem InFamilies.tells (hi : s.InFamilies) (hs : s.Sound) {f : Nat} {r : Reply}
    (hfile : s.socketFile? event = some f) (hdone : s.result? event = some (.ok r)) :
    ∃ t step, s.process.store.file f = .socket t ∧ Process.TellsIn t.family step ∧
      step.progress = .done (.ok r) ∧ (s.next event).process = step.state := by
  cases event with
  | call c =>
    cases c with
    | onSocket fd c =>
      have hfd : s.process.table.lookup fd = .ok f := by
        simp only [socketFile?] at hfile
        cases hl : s.process.table.lookup fd with
        | error e => simp [hl, Except.toOption] at hfile
        | ok g => simpa [hl, Except.toOption] using hfile
      have hend := Process.Step.result?_eq_some.1 hdone
      obtain ⟨t, ht, htells⟩ := hi.sockets.tells_start hs.registered hfd hend
      exact ⟨t, _, ht, htells, hend, rfl⟩
    | _ => cases hfile
  | resume i =>
    obtain ⟨⟨q, answer⟩, hcall, hf⟩ := Option.bind_eq_some_iff.1 hfile
    cases answer with
    | none => simp [result?, hcall] at hdone
    | some x =>
      rw [result?_resume hcall] at hdone
      cases q with
      | resolving => cases hf
      | onSocket file q next =>
        cases hf
        have hwithin := hi.calls _ (List.mem_of_getElem? hcall)
        obtain ⟨t, ht, htells⟩ := hi.sockets.tells_resume hs.registered hwithin
        have hend := Process.Step.result?_eq_some.1 hdone
        exact ⟨t, _, ht, htells, hend, process_resume hcall⟩
  | serve | fail | collect | elsewhere => cases hfile

/-- A call on a socket that has to wait is in flight for the file of that socket. -/
theorem waiting_for_socket (s : Hosted) (fd : Nat) (c : SocketCall) :
    ∃ l, (s.next (.call (.onSocket fd c))).calls = s.calls ++ l ∧
      ∀ x ∈ l, x.pending.file? = s.socketFile? (.call (.onSocket fd c)) := by
  refine ⟨_, rfl, fun x hx => ?_⟩
  obtain ⟨q, hq, rfl⟩ := Process.Step.mem_asked hx
  obtain ⟨f, hfd, hf⟩ := Process.file?_of_start hq
  rw [hf, socketFile?, hfd]
  rfl

/-- On a host that only the process uses, after any calls, answers and failures: the address that a
call on a socket tells (its own name, that of its peer, the peer of what it accepts or the sender of
what it receives) is of the family of that socket, and the descriptor that an accept gives has a
socket of the same family as the one that it was made on, whether the call is over at once or goes
on from an answer. A call that waits stays with the file of its socket, and that socket stays there,
with its family, whatever happens. -/
theorem told_addresses_in_socket_family (settings : Settings) (events : List HostedEvent)
    (own : ∀ a, .elsewhere a ∉ events) :
    let s := (create settings).run events
    (∀ event f r, s.socketFile? event = some f → s.result? event = some (.ok r) →
      ∃ t, s.process.store.file f = .socket t ∧
        (∀ a, r.told? = some a → a.family = t.family) ∧
        ∀ fd a, r = .accepted fd a → ∃ g t', (s.next event).process.table.lookup fd = .ok g ∧
          (s.next event).process.store.file g = .socket t' ∧ t'.family = t.family) ∧
    (∀ fd c, ∃ l, (s.next (.call (.onSocket fd c))).calls = s.calls ++ l ∧
      ∀ x ∈ l, x.pending.file? = s.socketFile? (.call (.onSocket fd c))) ∧
    (∀ event f t, s.process.store.file f = .socket t →
      ∃ t', (s.next event).process.store.file f = .socket t' ∧ t'.family = t.family) := by
  intro s
  have hs : s.Sound := (sound_create settings).run events
  have hi : s.InFamilies := (inFamilies_create settings).run (sound_create settings) own
  refine ⟨fun event f r hfile hdone => ?_, s.waiting_for_socket, fun event f t ht => ?_⟩
  · obtain ⟨t, step, ht, htells, hend, hnext⟩ := hi.tells hs hfile hdone
    refine ⟨t, ht, fun a htold => htells.told r a hend htold, ?_⟩
    rintro fd a rfl
    exact hnext ▸ htells.opened fd a hend
  · obtain ⟨-, t', ht', hsame⟩ := hs.hasFamily_next (hi.sockets.hasFamily ht) event
    exact ⟨t', ht', hsame⟩

/-- A listener at the wildcard of the one family is connected to by way of its loopback address: the
accept tells an address of that family, and its socket is of that family. -/
theorem accepted_through_inet6_wildcard :
    let events : List HostedEvent := [.call (.socket 10 1 0),
      .call (.onSocket 3 (.bind (.inet6 .unspecified 7001))), .call (.onSocket 3 .listen), .serve 0,
      .resume 0, .call (.socket 10 1 0), .call (.onSocket 4 (.connect (.inet6 .loopback 7001))),
      .serve 0, .resume 0, .call (.onSocket 3 .accept), .serve 0]
    let s := (create {}).run events
    (∀ a, .elsewhere a ∉ events) ∧
    s.result? (.resume 0) = some (.ok (.accepted 5 (.inet6 .loopback 49152))) ∧
    ∃ l g t, s.process.store.file 3 = .socket l ∧ .inet6 = l.family ∧
      (s.next (.resume 0)).process.table.lookup 5 = .ok g ∧
      (s.next (.resume 0)).process.store.file g = .socket t ∧ t.family = l.family := by
  intro events s
  have hown : ∀ a, .elsewhere a ∉ events := by simp [events]
  have hresult : s.result? (.resume 0) = some (.ok (.accepted 5 (.inet6 .loopback 49152))) := by
    decide +kernel
  have hfile : s.socketFile? (.resume 0) = some 3 := by decide +kernel
  obtain ⟨htells, -, -⟩ := told_addresses_in_socket_family {} events hown
  obtain ⟨l, hl, htold, hopened⟩ := htells (.resume 0) 3 _ hfile hresult
  obtain ⟨g, t, hg, ht, hfamily⟩ := hopened 5 _ rfl
  exact ⟨hown, hresult, l, g, t, hl, htold _ rfl, hg, ht, hfamily⟩

end Hosted

end SyscallBridge
