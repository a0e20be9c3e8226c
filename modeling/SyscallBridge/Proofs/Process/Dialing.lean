import SyscallBridge.Proofs.Process.Descriptors

/-!
# Dials that fail

A dial opens a socket, waits for the host to connect it, and releases its descriptor if that fails.
It remembers the descriptor by its number. Between its turns anything may be called, and the number
may have been closed and given out again, or put on another file by `dup2`; the cleanup then empties
the number all the same, and closes a file that the dial has not made.
-/

namespace SyscallBridge

/-- The descriptor and the file that a waiting dial has made. -/
def ProcessPending.dialed? : ProcessPending → Option (Nat × Nat)
  | onSocket file _ (.dialed fd) => some (fd, file)
  | _ => none

namespace Process

/-- The turns of a dial that is called at `p₀`: each with what the dial has made before, the state it
finds, and the event that it is. The events in `meanwhile` come while the dial waits. -/
inductive DialTurn (p₀ : Process) (network address : String) :
    Option (Nat × Nat) → Process → ProcessEvent → Prop
  | begins : DialTurn p₀ network address none p₀ (.call (.dial network address))
  | continues {made : Option (Nat × Nat)} {p : Process} {e : ProcessEvent} {q : ProcessPending}
      (before : DialTurn p₀ network address made p e) (waits : (p.turn e).progress = .pending q)
      (meanwhile : List ProcessEvent) (a : Except HostFailure q.request.Answer) :
      DialTurn p₀ network address q.dialed? ((p.next e).run meanwhile) (.answer q a)

variable {p p' : Process}

/-! ### Opening a socket -/

/-- `p'` is `p` with the file `f` opened at `fd`. -/
structure Opened (p : Process) (fd : Nat) (f : OpenFile) (p' : Process) : Prop where
  registered : Registered p'
  free : p.table.lookup fd = .error (.badDescriptor fd)
  lookup : ∀ d, p'.table.lookup d = if d = fd then .ok p.store.nextFile else p.table.lookup d
  own : p'.store.file p.store.nextFile = f
  others : ∀ g, g ≠ p.store.nextFile → p'.store.file g = p.store.file g

theorem Registered.opened (h : Registered p) (f : OpenFile) :
    Opened p (p.allocate f).1 f (p.allocate f).2 where
  registered := h.allocate f
  free := p.table.lookup_fst_allocate p.store.nextFile
  lookup := h.accounted.lookup_allocate p.store.nextFile
  own := (p.store.file_add f p.store.nextFile).trans (if_pos rfl)
  others g hne := (p.store.file_add f g).trans (if_neg hne)

namespace Opened

variable {fd : Nat} {f : OpenFile}

theorem set (h : Opened p fd f p') (f' : OpenFile) :
    Opened p fd f' (p'.ofStore (p'.store.set p.store.nextFile f')) where
  registered := h.registered.ofStore (.set f')
  free := h.free
  lookup := h.lookup
  own := (p'.store.file_set p.store.nextFile f' p.store.nextFile).trans (if_pos rfl)
  others g hne := by
    have hset := p'.store.file_set p.store.nextFile f' g
    rw [if_neg hne, h.others g hne] at hset
    exact hset

/-- Nothing is left of a descriptor that is released at once. -/
theorem released (h : Opened p fd f p') {p'' : Process} (hr : Released p' fd p'') :
    (∀ d, p''.table.lookup d = p.table.lookup d) ∧
      ∀ g, g ≠ p.store.nextFile → p''.store.file g = p.store.file g := by
  constructor
  · intro d
    by_cases hd : d = fd
    · rw [hd, hr.emptied, h.free]
    · rw [hr.others d hd, h.lookup d, if_neg hd]
  · intro g hne
    have hsole : ¬ p'.table.Sole fd g := by
      intro hg
      have hfd := hg.1
      rw [h.lookup fd, if_pos rfl] at hfd
      exact hne (Except.ok.inj hfd).symm
    rw [hr.kept g hsole, h.others g hne]

end Opened

theorem socketTurn_error {file fd : Nat} {t : Turn FileStore SocketReply SocketPending}
    (err : CallError) (ht : t.progress = .done (.error err)) :
    p.socketTurn file (.dialed fd) t =
      ⟨((p.ofStore t.state).finish (.dialed fd) (.error err)).1,
        t.effects ++ ((p.ofStore t.state).finish (.dialed fd) (.error err)).2.1,
        .done (.error err)⟩ := by
  unfold socketTurn
  rw [ht]
  dsimp only [Process.finish]
  split <;> rfl

/-! ### Before there is a socket -/

/-- What a turn of a dial that has no socket yet may come to. -/
inductive Seeking (p : Process) : Step → Prop
  /-- A socket that cannot be connected at once is gone again. -/
  | fails (p' : Process) (effects : List Effect) (err : CallError)
      (lookup : ∀ d, p'.table.lookup d = p.table.lookup d)
      (files : ∀ g, g ≠ p.store.nextFile → p'.store.file g = p.store.file g) :
      Seeking p ⟨p', effects, .done (.error err)⟩
  | resolves (network : Network) (name : String) (port : UInt16) :
      Seeking p (.ask p (.resolving network name port true))
  | connects (p' : Process) (fd : Nat) (s : Socket) (a : SockAddr)
      (opened : Opened p fd (.socket s) p') :
      Seeking p
        (.ask p' (.onSocket p.store.nextFile (.connecting s.protocol none a) (.dialed fd)))

theorem Seeking.fail (p : Process) (err : CallError) : Seeking p (.fail p err) :=
  .fails p [] err (fun _ => rfl) fun _ _ => rfl

theorem create_unbound {domain type protocol : Int} {s : Socket}
    (h : Socket.create domain type protocol = .ok s) : s.endpoint = .unbound := by
  unfold Socket.create at h
  split at h
  · cases h
  · split at h
    · cases h
    · split at h
      · cases h
      · cases h
        rfl

theorem startConnect_unbound {s : Socket} (h : s.endpoint = .unbound) (a : SockAddr) :
    (∃ err, s.startConnect a = .fail s err) ∨
      s.startConnect a = .ask s (.connecting s.protocol none a) := by
  unfold Socket.startConnect Socket.guarded
  cases s.checkFamily a with
  | error err => exact .inl ⟨err, rfl⟩
  | ok _ =>
    cases Socket.checkPort a with
    | error err => exact .inl ⟨err, rfl⟩
    | ok _ =>
      rw [h]
      exact .inr rfl

theorem Opened.startOnSocket {fd : Nat} {s : Socket} (h : Opened p fd (.socket s) p')
    (next : Afterwards) (c : SocketCall) : p'.startOnSocket fd next c =
      p'.socketTurn p.store.nextFile next (p'.store.socketTurn p.store.nextFile (s.start c)) := by
  have hfd := h.lookup fd
  rw [if_pos rfl] at hfd
  unfold Process.startOnSocket
  rw [hfd]
  simp only [h.own]
  rfl

theorem seeking_connect {fd : Nat} {s : Socket} (h : Opened p fd (.socket s) p')
    (hs : s.endpoint = .unbound) (a : SockAddr) :
    Seeking p (p'.startOnSocket fd (.dialed fd) (.connect a)) := by
  rw [h.startOnSocket, Socket.start]
  have hset := h.set (.socket s)
  rcases startConnect_unbound hs a with ⟨err, hfail⟩ | hask
  · -- the turn has put the socket back as it was, and then the cleanup runs
    have hreleased := (hset.registered.finish_dialed fd err).2
    obtain ⟨hlookup, hfiles⟩ := hset.released hreleased
    rw [hfail, socketTurn_error err rfl]
    exact .fails _ _ err hlookup hfiles
  · rw [hask]
    exact .connects _ fd s a hset

theorem seeking_located (h : Registered p) (network : Network) (a : SockAddr) :
    Seeking p (p.located network true a) := by
  rw [located, if_pos rfl, dialAddress]
  split
  · exact .fail p _
  · next s hs => exact seeking_connect (h.opened (.socket s)) (create_unbound hs) a

theorem seeking_start (h : Registered p) (network address : String) :
    Seeking p (p.start (.dial network address)) := by
  change Seeking p (p.startLocate network address true)
  unfold startLocate
  split
  · exact .fail p _
  · unfold locate
    split
    · exact .fail p _
    · split
      · exact seeking_located h _ _
      · exact .fail p _
    · exact seeking_located h _ _
    · exact .resolves _ _ _

theorem seeking_found (h : Registered p) (network : Network) (name : String) (port : UInt16)
    (a : Except HostFailure (List NetAddress)) :
    Seeking p (p.resume (.resolving network name port true) a) := by
  cases a with
  | error f => exact .fail p _
  | ok found =>
    simp only [resume]
    split
    · exact .fail p _
    · exact seeking_located h network _

/-! ### While the host connects -/

theorem resume_connecting (s : Socket) (protocol : Protocol) (own : Option NetAddress)
    (a : SockAddr) (answer : Except HostFailure ConnectionHandle) :
    let t := s.resume (.connecting protocol own a) answer
    (∃ r, t.progress = .done (.ok r)) ∨ ∃ err, t.progress = .done (.error err) ∧ t.state = s := by
  intro t
  cases answer with
  | error f => exact .inr ⟨.ofHost f, rfl, rfl⟩
  | ok c =>
    have ht : t = s.resumeConnect a c := rfl
    rw [ht, Socket.resumeConnect]
    split
    · exact .inl ⟨.plain .done, rfl⟩
    · exact .inl ⟨.plain .done, rfl⟩
    · exact .inr ⟨.invalidState "socket changed during connect", rfl, rfl⟩

theorem resumeSocket_connecting (fs : FileStore) (id : Nat) (protocol : Protocol)
    (own : Option NetAddress) (a : SockAddr) (answer : Except HostFailure ConnectionHandle) :
    let t := fs.resumeSocket id (.connecting protocol own a) answer
    (∃ r, t.progress = .done (.ok r)) ∨
      ∃ err, t.progress = .done (.error err) ∧ ∀ g, t.state.file g = fs.file g := by
  intro t
  cases hf : fs.file id with
  | socket s =>
    have ht : t = fs.socketTurn id (s.resume (.connecting protocol own a) answer) := by
      simp only [t, FileStore.resumeSocket, hf]
    rw [ht, FileStore.socketTurn, Turn.map]
    rcases resume_connecting s protocol own a answer with ⟨r, hok⟩ | ⟨err, hfail, hstate⟩
    · rw [hok]
      exact .inl ⟨r, rfl⟩
    · rw [hfail, hstate]
      refine .inr ⟨err, rfl, fun g => ?_⟩
      rw [fs.file_set id (.socket s) g]
      split
      · next hg => rw [hg, hf]
      · rfl
  | console | random | fixed | temp | unsupported =>
    have ht : t = .fail fs .endOfStream := by
      simp only [t, FileStore.resumeSocket, hf]
    rw [ht]
    exact .inr ⟨.endOfStream, rfl, fun _ => rfl⟩

theorem Released.of_store {fd : Nat} {store : FileStore} (h : Released (p.ofStore store) fd p')
    (hsame : ∀ g, store.file g = p.store.file g) : Released p fd p' where
  emptied := h.emptied
  others := h.others
  closed g hsole := by
    rw [h.closed g hsole]
    exact congrArg OpenFile.closed (hsame g)
  kept g hsole := (h.kept g hsole).trans (hsame g)

/-- The answer of the host ends a dial; when it fails its number is released. -/
theorem connecting_turn (h : Registered p) (fd file : Nat) (protocol : Protocol)
    (own : Option NetAddress) (a : SockAddr) (answer : Except HostFailure ConnectionHandle) :
    let t := p.resume (.onSocket file (.connecting protocol own a) (.dialed fd)) answer
    (∃ r, t.progress = .done (.ok r)) ∨
      ∃ err, t.progress = .done (.error err) ∧ Released p fd t.state := by
  intro t
  have ht : t = p.socketTurn file (.dialed fd)
      (p.store.resumeSocket file (.connecting protocol own a) answer) := rfl
  have htouches : p.store.Touches file
      (p.store.resumeSocket file (.connecting protocol own a) answer).state :=
    FileStore.touches_resumeSocket _ _
  rcases resumeSocket_connecting p.store file protocol own a answer with
    ⟨r, hok⟩ | ⟨err, hfail, hsame⟩
  · refine .inl ⟨.number fd, ?_⟩
    rw [ht, socketTurn, hok]
    rfl
  · rw [ht, socketTurn_error err hfail]
    exact .inr ⟨err, rfl, ((h.ofStore htouches).finish_dialed fd err).2.of_store hsame⟩

/-! ### Turns of a dial -/

/-- What a turn of a dial may come to, by what the dial has made before. -/
inductive Underway (p : Process) : Option (Nat × Nat) → Step → Prop
  | seeking {t : Step} (h : Seeking p t) : Underway p none t
  | connecting (fd file : Nat) {t : Step}
      (h : (∃ r, t.progress = .done (.ok r)) ∨
        ∃ err, t.progress = .done (.error err) ∧ Released p fd t.state) :
      Underway p (some (fd, file)) t

namespace Underway

variable {t : Step} {made : Option (Nat × Nat)} {q : ProcessPending} {fd file : Nat}
  {err : CallError}

/-- A dial waits for its name, or for a socket that it has just opened. -/
theorem waits (h : Underway p made t) (hq : t.progress = .pending q) :
    (∃ network name port, q = .resolving network name port true) ∨
      ∃ fd s a, Opened p fd (.socket s) t.state ∧
        q = .onSocket p.store.nextFile (.connecting s.protocol none a) (.dialed fd) := by
  cases h with
  | seeking hseeking =>
    cases hseeking with
    | fails => cases hq
    | resolves network name port =>
      cases hq
      exact .inl ⟨network, name, port, rfl⟩
    | connects p' fd s a hopened =>
      cases hq
      exact .inr ⟨fd, s, a, hopened, rfl⟩
  | connecting fd file hdone =>
    -- the host has been asked for the last time
    rcases hdone with ⟨r, hok⟩ | ⟨err, hfail, -⟩
    · rw [hq] at hok
      cases hok
    · rw [hq] at hfail
      cases hfail

theorem unchanged (h : Underway p none t) (hfail : t.progress = .done (.error err)) :
    (∀ d, t.state.table.lookup d = p.table.lookup d) ∧
      ∀ g, g ≠ p.store.nextFile → t.state.store.file g = p.store.file g := by
  cases h with
  | seeking hseeking =>
    cases hseeking with
    | fails p' effects err' hlookup hfiles => exact ⟨hlookup, hfiles⟩
    | resolves | connects => cases hfail

theorem released (h : Underway p (some (fd, file)) t) (hfail : t.progress = .done (.error err)) :
    Released p fd t.state := by
  cases h with
  | connecting fd file hdone =>
    rcases hdone with ⟨r, hok⟩ | ⟨_, -, hreleased⟩
    · rw [hfail] at hok
      cases hok
    · exact hreleased

end Underway

theorem DialTurn.underway {p₀ : Process} {network address : String} {made : Option (Nat × Nat)}
    {e : ProcessEvent} (h₀ : Registered p₀) (h : DialTurn p₀ network address made p e) :
    Registered p ∧ Underway p made (p.turn e) := by
  induction h with
  | begins => exact ⟨h₀, .seeking (seeking_start h₀ network address)⟩
  | @continues made p e q before hq meanwhile a ih =>
    obtain ⟨hp, hturn⟩ := ih
    have hnow : Registered ((p.next e).run meanwhile) := (hp.next e).run meanwhile
    refine ⟨hnow, ?_⟩
    rcases hturn.waits hq with ⟨network', name, port, rfl⟩ | ⟨fd, s, peer, -, rfl⟩
    · exact .seeking (seeking_found hnow network' name port a)
    · exact .connecting fd p.store.nextFile (connecting_turn hnow fd _ _ _ _ a)

/-- A dial from any state that a process comes to, with any calls while it waits. The descriptor
that it makes was free, and its file is new. If the dial fails before the host is asked to connect,
all descriptors refer to what they did and no other file has changed. If it fails after that, its
number is emptied, whatever that refers to by then, and every other descriptor keeps its file. The
file that only the number referred to is closed, and no other; as long as the number is still on the
socket of the dial, that is no file but this socket. -/
theorem failed_dial_empties_its_number (s : Settings) (earlier : List ProcessEvent)
    {network address : String} {made : Option (Nat × Nat)} {p : Process} {e : ProcessEvent}
    (h : DialTurn ((create s).run earlier) network address made p e) :
    (∀ q fd file, (p.turn e).progress = .pending q → q.dialed? = some (fd, file) →
      p.table.lookup fd = .error (.badDescriptor fd) ∧ file = p.store.nextFile ∧
      (∀ d, p.table.lookup d ≠ .ok file) ∧
      ∀ d, (p.next e).table.lookup d = if d = fd then .ok file else p.table.lookup d) ∧
    (∀ err, (p.turn e).progress = .done (.error err) → made = none →
      (∀ d, (p.next e).table.lookup d = p.table.lookup d) ∧
      ∀ g, g ≠ p.store.nextFile → (p.next e).store.file g = p.store.file g) ∧
    (∀ err fd file, (p.turn e).progress = .done (.error err) → made = some (fd, file) →
      (p.next e).table.lookup fd = .error (.badDescriptor fd) ∧
      (∀ d, d ≠ fd → (p.next e).table.lookup d = p.table.lookup d) ∧
      (∀ g, p.table.Sole fd g → (p.next e).store.file g = (p.store.file g).closed) ∧
      (∀ g, ¬ p.table.Sole fd g → (p.next e).store.file g = p.store.file g) ∧
      (p.table.lookup fd = .ok file → ∀ g, g ≠ file →
        (p.next e).store.file g = p.store.file g)) := by
  obtain ⟨hp, hturn⟩ := h.underway ((registered_create s).run earlier)
  refine ⟨?_, ?_, ?_⟩
  · intro q fd file hwaits hq
    rcases hturn.waits hwaits with ⟨_, _, _, rfl⟩ | ⟨fd, socket, a, hopened, rfl⟩
    · cases hq
    · cases hq
      have hnew : ∀ d, p.table.lookup d ≠ .ok p.store.nextFile :=
        fun d hd => Nat.lt_irrefl _ (hp.lt_of_lookup hd)
      exact ⟨hopened.free, rfl, hnew, hopened.lookup⟩
  · rintro err hfail rfl
    exact hturn.unchanged hfail
  · rintro err fd file hfail rfl
    have hreleased : Released p fd (p.next e) := hturn.released hfail
    have hown : p.table.lookup fd = .ok file → ∀ g, g ≠ file →
        (p.next e).store.file g = p.store.file g := by
      intro hfd g hne
      have hsole : ¬ p.table.Sole fd g := by
        intro hg
        exact hne (Except.ok.inj (hg.1.symm.trans hfd))
      exact hreleased.kept g hsole
    exact ⟨hreleased.emptied, hreleased.others, hreleased.closed, hreleased.kept, hown⟩

/-! ### A number that is given out again -/

def refusingPeer : SockAddr := .inet4 ⟨127, 0, 0, 1⟩ 7001

def refusedDial : ProcessPending := .onSocket 3 (.connecting .tcp none refusingPeer) (.dialed 3)

def keptHandle : TempHandle := .open_ 0 .readWrite

def refusal : ProcessEvent := .answer refusedDial (.error .connectionRefused)

/-- While a dial waits, its number is closed and then taken by a temp file. -/
def numberTaken : Process :=
  ((create {}).next (.call (.dial "tcp" "127.0.0.1:7001"))).run
    [.call (.close 3), .call (.open_ "/tmp/kept" .readWrite)]

theorem refusedDial_waits :
    ((create {}).turn (.call (.dial "tcp" "127.0.0.1:7001"))).progress = .pending refusedDial := by
  have hnetwork : Network.parse "tcp" = .ok ⟨.tcp, .any⟩ := rfl
  have haddress : Dialed.parse? "127.0.0.1:7001" = some (.numeric refusingPeer) := by
    decide +kernel
  change ((create {}).startLocate "tcp" "127.0.0.1:7001" true).progress = _
  rw [startLocate, hnetwork]
  dsimp only
  unfold locate
  rw [haddress]
  rfl

theorem numberTaken_turn :
    DialTurn (create {}) "tcp" "127.0.0.1:7001" (some (3, 3)) numberTaken refusal :=
  .continues .begins refusedDial_waits _ _

theorem failed_dial_empties_its_number_taken :
    DialTurn ((create {}).run []) "tcp" "127.0.0.1:7001" (some (3, 3)) numberTaken refusal ∧
    (numberTaken.turn refusal).progress = .done (.error (.host .connectionRefused)) ∧
    (numberTaken.next refusal).table.lookup 3 = .error (.badDescriptor 3) ∧
    ∀ d, d ≠ 3 → (numberTaken.next refusal).table.lookup d = numberTaken.table.lookup d := by
  have hfails : (numberTaken.turn refusal).progress = .done (.error (.host .connectionRefused)) :=
    rfl
  obtain ⟨-, -, hcleaned⟩ := failed_dial_empties_its_number {} [] numberTaken_turn
  obtain ⟨hempty, hothers, -⟩ := hcleaned _ 3 3 hfails rfl
  exact ⟨numberTaken_turn, hfails, hempty, hothers⟩

/-- A failed dial closes a temp file that it has not made. -/
theorem failed_dial_closes_taken_number :
    DialTurn (create {}) "tcp" "127.0.0.1:7001" (some (3, 3)) numberTaken refusal ∧
    (numberTaken.turn refusal).progress = .done (.error (.host .connectionRefused)) ∧
    numberTaken.table.lookup 3 = .ok 4 ∧
    numberTaken.store.file 4 = .temp keptHandle ∧
    (numberTaken.next refusal).store.file 4 = .temp { keptHandle with closed := true } := by
  refine ⟨numberTaken_turn, rfl, ?_, rfl, rfl⟩
  decide +kernel

end Process

end SyscallBridge
