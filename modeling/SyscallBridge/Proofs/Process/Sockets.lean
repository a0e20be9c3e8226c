import SyscallBridge.Proofs.Process.Descriptors
import SyscallBridge.Proofs.Socket.Asking
import SyscallBridge.Proofs.Socket.Endpoint

/-!
# The sockets of a process

A turn of the process is a few moves: a file is opened, a socket takes a turn, a plain file changes,
or a record is dropped and its file closed. Through all of them a socket that no descriptor refers
to is closed, and a resource that a descriptor's socket holds, or that the host has just given, is
held by one afterwards unless it is closed.
-/

namespace SyscallBridge

/-- The resource that an answer gives to the one who asked. -/
def Request.given? : (r : Request) → r.Answer → Option Resource
  | .listen .., (l : ListenerHandle) => some l.resource
  | .dial .., (c : ConnectionHandle) => some c.resource
  | .accept _, (c : ConnectionHandle) => some c.resource
  | .bindPort _, (p : PortHandle) => some p.resource
  | .dialChannel _, (c : ChannelHandle) => some c.resource
  | .acceptChannel _, (c : ChannelHandle) => some c.resource
  | _, _ => none

/-- What is given with the answer that a call goes on with. -/
def ProcessEvent.given? : ProcessEvent → Option Resource
  | .answer q (.ok a) => q.request.given? a
  | _ => none

theorem closings_append (l l' : List Effect) : closings (l ++ l') = closings l ++ closings l' := by
  induction l with
  | nil => rfl
  | cons e l ih => cases e <;> simp [closings, ih]

theorem closings_eq_nil {l : List Effect} (hl : ∀ x, .close x ∉ l) : closings l = [] := by
  induction l with
  | nil => rfl
  | cons e l ih =>
    have hrest := ih fun x hx => hl x (List.mem_cons_of_mem _ hx)
    cases e with
    | close x => exact absurd List.mem_cons_self (hl x)
    | log | notice => exact hrest

theorem OpenFile.eq_socket {f : OpenFile} {s : Socket} (hs : f.socket? = some s) :
    f = .socket s := by
  unfold OpenFile.socket? at hs
  split at hs
  · cases hs
    rfl
  · cases hs

namespace FileStore

variable {fs fs' : FileStore} {file f : Nat} {s : Socket}

/-- A change to a file that is no socket, and stays none, keeps the sockets. -/
theorem Touches.socket_iff (ht : fs.Touches file fs') (plain : (fs.file file).socket? = none)
    (still : (fs'.file file).socket? = none) :
    fs'.file f = .socket s ↔ fs.file f = .socket s := by
  by_cases hf : f = file
  · subst hf
    refine ⟨fun h => ?_, fun h => ?_⟩
    · rw [h] at still
      cases still
    · rw [h] at plain
      cases plain
  · rw [ht.others f hf]

/-- A socket after a file is closed is the socket that it was, or that file was closed. -/
theorem socket_of_close (hf : (fs.close file).1.file f = .socket s) :
    fs.file f = .socket s ∧ f ≠ file ∨ s.endpoint = .closed := by
  rw [file_close] at hf
  split at hf
  · cases hg : fs.file f with
    | socket s' =>
      rw [hg] at hf
      cases hf
      exact Or.inr rfl
    | console | random | fixed | temp | unsupported =>
      rw [hg] at hf
      cases hf
  · rename_i hne
    exact Or.inl ⟨hf, hne⟩

theorem exists_socket_of_close (hf : (fs.close file).1.file f = .socket s) :
    ∃ s', fs.file f = .socket s' := by
  rw [file_close] at hf
  split at hf
  · cases hg : fs.file f with
    | socket s' => exact ⟨s', rfl⟩
    | console | random | fixed | temp | unsupported =>
      rw [hg] at hf
      cases hf
  · exact ⟨s, hf⟩

end FileStore

/-! ### Moves -/

/-- The turns of the socket in a file that a turn of the process is made of. -/
inductive ProcessEvent.Runs : ProcessEvent → Nat → SocketEvent → Prop
  | call (e : ProcessEvent) (file : Nat) (c : SocketCall) : Runs e file (.call c)
  | answer (file : Nat) (q : SocketPending) (next : Afterwards)
    (a : Except HostFailure q.request.Answer) :
    Runs (.answer (.onSocket file q next) a) file (.answer q a)

/-- The files that a turn of the process may open. -/
inductive ProcessEvent.Opens : ProcessEvent → OpenFile → Prop
  | plain (e : ProcessEvent) {f : OpenFile} (hf : f.socket? = none) : Opens e f
  | unbound (e : ProcessEvent) {s : Socket} (hs : s.endpoint = .unbound) : Opens e (.socket s)
  | accepted (file : Nat) (l : ListenerHandle) (next : Afterwards) (c : ConnectionHandle)
    (protocol : Protocol) : Opens (.answer (.onSocket file (.accepting l) next) (.ok c))
      (.socket (.accepted protocol c (.ofNet c.peer)))

/-- The endpoints that an answer may leave a socket with. -/
inductive ProcessEvent.Gives : ProcessEvent → Endpoint → Prop
  | listening (file : Nat) (protocol : Protocol) (own : NetAddress) (next : Afterwards)
    (l : ListenerHandle) :
    Gives (.answer (.onSocket file (.listening protocol own) next) (.ok l)) (.listening l)
  | connected (file : Nat) (protocol : Protocol) (own : Option NetAddress) (a : SockAddr)
    (next : Afterwards) (c : ConnectionHandle) :
    Gives (.answer (.onSocket file (.connecting protocol own a) next) (.ok c)) (.connected c a)
  | datagram (file : Nat) (own : NetAddress) (use : DatagramUse) (next : Afterwards)
    (port : PortHandle) :
    Gives (.answer (.onSocket file (.claiming own use) next) (.ok port)) (.datagram port)
  | accepted (file : Nat) (l : ListenerHandle) (next : Afterwards) (c : ConnectionHandle) :
    Gives (.answer (.onSocket file (.accepting l) next) (.ok c)) (.connected c (.ofNet c.peer))

theorem ProcessEvent.Gives.given? {e : ProcessEvent} {y : Endpoint} (hg : e.Gives y) :
    e.given? = y.resource? := by
  cases hg <;> rfl

/-- One move in a turn, with the resources that it is given and those that it closes. -/
inductive ProcessMove (e : ProcessEvent) (p : Process) :
    List Resource → List Resource → Process → Prop
  | keeps {p' : Process} (table : p'.table = p.table)
    (nextFile : p'.store.nextFile = p.store.nextFile)
    (files : ∀ f, p'.store.file f = p.store.file f) : ProcessMove e p [] [] p'
  | opens (f : OpenFile) (origin : e.Opens f) :
    ProcessMove e p f.resource?.toList [] (p.allocate f).2
  | turns {file : Nat} {s : Socket} {event : SocketEvent} (socket : p.store.file file = .socket s)
    (runs : e.Runs file event) (sound : TurnSound s event (event.turn s)) :
    ProcessMove e p event.obtained?.toList (closings (event.turn s).effects)
      (p.ofStore (p.store.set file (.socket (event.turn s).state)))
  | changes {file : Nat} {store : FileStore} (plain : (p.store.file file).socket? = none)
    (touches : p.store.Touches file store) (still : (store.file file).socket? = none) :
    ProcessMove e p [] [] (p.ofStore store)
  | drops {table : DescriptorTable Nat} {shut : Option Nat} (accounted : table.Accounted none)
    (drops : DescriptorTable.Drops p.table table shut) :
    ProcessMove e p [] (closings (Process.closeFile { p with table } shut).2)
      (Process.closeFile { p with table } shut).1

/-- The moves of a turn. -/
inductive ProcessMoves (e : ProcessEvent) :
    Process → List Resource → List Resource → Process → Prop
  | nil (p : Process) : ProcessMoves e p [] [] p
  | cons {p p' p'' : Process} {given closed given' closed' : List Resource}
    (first : ProcessMove e p given closed p') (rest : ProcessMoves e p' given' closed' p'') :
    ProcessMoves e p (given ++ given') (closed ++ closed') p''

namespace ProcessMoves

variable {e : ProcessEvent} {p p' p'' : Process} {given closed given' closed' : List Resource}

theorem single (hm : ProcessMove e p given closed p') : ProcessMoves e p given closed p' := by
  have hone := ProcessMoves.cons hm (.nil p')
  rwa [List.append_nil, List.append_nil] at hone

theorem append (hm : ProcessMoves e p given closed p')
    (hm' : ProcessMoves e p' given' closed' p'') :
    ProcessMoves e p (given ++ given') (closed ++ closed') p'' := by
  induction hm with
  | nil => exact hm'
  | cons first rest ih =>
    rw [List.append_assoc, List.append_assoc]
    exact .cons first (ih hm')

end ProcessMoves

namespace Process

variable {p p' : Process} {e : ProcessEvent} {given closed : List Resource} {x : Resource}

/-- A descriptor refers to a socket with this resource. -/
def Has (p : Process) (x : Resource) : Prop :=
  ∃ r f s, p.table.fileOf? r = some f ∧ p.store.file f = .socket s ∧
    s.endpoint.resource? = some x

/-- Sockets that no descriptor refers to are closed. -/
def Sealed (p : Process) : Prop :=
  ∀ f s, p.store.file f = .socket s → s.endpoint = .closed ∨ ∃ r, p.table.fileOf? r = some f

theorem Sealed.has (hs : Sealed p) {f : Nat} {s : Socket} (hf : p.store.file f = .socket s)
    (hx : s.endpoint.resource? = some x) : p.Has x := by
  rcases hs f s hf with hclosed | ⟨r, hr⟩
  · rw [hclosed] at hx
    cases hx
  · exact ⟨r, f, s, hr, hf, hx⟩

theorem Registered.move (hr : Registered p) (hm : ProcessMove e p given closed p') :
    Registered p' := by
  cases hm with
  | keeps table nextFile files => exact hr.of_eq table nextFile
  | opens f origin => exact hr.allocate f
  | turns socket runs sound => exact hr.ofStore (.set _)
  | changes plain touches still => exact hr.ofStore touches
  | drops accounted drops => exact hr.closeFile accounted drops

/-- What an opening leaves: a new file under a new record, and all others as they were. -/
theorem Registered.file_allocate (hr : Registered p) (f : OpenFile) :
    (∀ r g, p.table.fileOf? r = some g → (p.allocate f).2.table.fileOf? r = some g ∧
      (p.allocate f).2.store.file g = p.store.file g) ∧
    (p.allocate f).2.table.fileOf? p.table.nextRecord = some p.store.nextFile ∧
    (∀ g, (p.allocate f).2.store.file g =
      if g = p.store.nextFile then f else p.store.file g) := by
  have hfile : ∀ r, (p.allocate f).2.table.fileOf? r =
      if r = p.table.nextRecord then some p.store.nextFile else p.table.fileOf? r :=
    DescriptorTable.fileOf?_allocate p.store.nextFile
  have hstore : ∀ g, (p.allocate f).2.store.file g =
      if g = p.store.nextFile then f else p.store.file g := p.store.file_add f
  refine ⟨fun r g hg => ⟨?_, ?_⟩, ?_, hstore⟩
  · have hne : r ≠ p.table.nextRecord := by
      rintro rfl
      rw [DescriptorTable.fileOf?, hr.accounted.unused _ (Nat.le_refl _)] at hg
      cases hg
    rw [hfile, if_neg hne, hg]
  · rw [hstore, if_neg (Nat.ne_of_lt (hr.known r g hg))]
  · rw [hfile, if_pos rfl]

theorem closings_close (fs : FileStore) (id : Nat) :
    closings (fs.close id).2 = (fs.file id).resource?.toList := by
  simp only [FileStore.close, FileStore.start]
  cases fs.file id with
  | socket s => exact closings_closing s.endpoint
  | console | random | fixed | temp | unsupported => rfl

theorem Sealed.move (hs : Sealed p) (hr : Registered p) (hm : ProcessMove e p given closed p') :
    Sealed p' := by
  cases hm with
  | keeps table nextFile files =>
    intro f s hf
    rw [table]
    exact hs f s ((files f).symm.trans hf)
  | opens new origin =>
    obtain ⟨hold, hnew, hfile⟩ := hr.file_allocate new
    intro f s hf
    rw [hfile] at hf
    split at hf
    · rename_i heq
      exact Or.inr ⟨_, heq ▸ hnew⟩
    · rcases hs f s hf with hclosed | ⟨r, hrecord⟩
      · exact Or.inl hclosed
      · exact Or.inr ⟨r, (hold r f hrecord).1⟩
  | @turns file before event socket runs sound =>
    intro f s hafter
    have hf := (p.store.file_set file (.socket (event.turn before).state) f).symm.trans hafter
    split at hf
    · rename_i heq
      subst heq
      cases hf
      rcases hs f before socket with hclosed | hrecord
      · exact Or.inl (Moves.of_closed (hclosed ▸ sound.moves))
      · exact Or.inr hrecord
    · exact hs f s hf
  | @changes file store plain touches still =>
    intro f s hf
    exact hs f s ((touches.socket_iff plain still).1 hf)
  | @drops table shut accounted drops =>
    cases drops with
    | nothing kept =>
      intro f s hf
      refine (hs f s hf).imp id fun ⟨r, hrecord⟩ => ⟨r, ?_⟩
      exact (kept r).trans hrecord
    | record gone g held kept =>
      intro f s hf
      rcases FileStore.socket_of_close hf with ⟨hf, hne⟩ | hclosed
      · refine (hs f s hf).imp id fun ⟨r, hrecord⟩ => ⟨r, ?_⟩
        have hrg : r ≠ gone := by
          rintro rfl
          exact hne (Option.some.inj (hrecord.symm.trans held))
        exact (kept r).trans ((if_neg hrg).trans hrecord)
      · exact Or.inl hclosed

/-- What is held or given is held or closed. -/
theorem Has.move (hs : Sealed p) (hr : Registered p) (hm : ProcessMove e p given closed p')
    (hx : x ∈ given ∨ p.Has x) : x ∈ closed ∨ p'.Has x := by
  have hs' := hs.move hr hm
  cases hm with
  | keeps table nextFile files =>
    obtain ⟨r, f, s, hrecord, hf, hres⟩ := hx.resolve_left List.not_mem_nil
    exact Or.inr ⟨r, f, s, table ▸ hrecord, (files f).trans hf, hres⟩
  | opens new origin =>
    obtain ⟨hold, hnew, hfile⟩ := hr.file_allocate new
    refine Or.inr ?_
    rcases hx with hgiven | ⟨r, f, s, hrecord, hf, hres⟩
    · have hres := Option.mem_toList.1 hgiven
      cases new with
      | socket s => exact ⟨_, _, s, hnew, (hfile _).trans (if_pos rfl), hres⟩
      | console | random | fixed | temp | unsupported => cases hres
    · obtain ⟨hrecord', hsame⟩ := hold r f hrecord
      exact ⟨r, f, s, hrecord', hsame.trans hf, hres⟩
  | @turns file before event socket runs sound =>
    have hset (f : Nat) := p.store.file_set file (.socket (event.turn before).state) f
    have hafter : (p.store.set file (.socket (event.turn before).state)).file file =
        .socket (event.turn before).state := (hset file).trans (if_pos rfl)
    have hkept (hmem : x ∈ event.obtained?.toList ++ before.endpoint.resource?.toList) :
        x ∈ closings (event.turn before).effects ∨
          (p.ofStore (p.store.set file (.socket (event.turn before).state))).Has x := by
      rcases List.mem_append.1 (sound.kept.subset hmem) with hclosed | hheld
      · exact Or.inl hclosed
      · exact Or.inr (hs'.has hafter (Option.mem_toList.1 hheld))
    rcases hx with hgiven | ⟨r, f, s, hrecord, hf, hres⟩
    · exact hkept (List.mem_append_left _ hgiven)
    · by_cases heq : f = file
      · subst heq
        cases socket.symm.trans hf
        exact hkept (List.mem_append_right _ (Option.mem_toList.2 hres))
      · exact Or.inr ⟨r, f, s, hrecord, ((hset f).trans (if_neg heq)).trans hf, hres⟩
  | @changes file store plain touches still =>
    obtain ⟨r, f, s, hrecord, hf, hres⟩ := hx.resolve_left List.not_mem_nil
    exact Or.inr ⟨r, f, s, hrecord, (touches.socket_iff plain still).2 hf, hres⟩
  | @drops table shut accounted drops =>
    obtain ⟨r, f, s, hrecord, hf, hres⟩ := hx.resolve_left List.not_mem_nil
    cases drops with
    | nothing kept => exact Or.inr ⟨r, f, s, (kept r).trans hrecord, hf, hres⟩
    | record gone g held kept =>
      by_cases hgone : r = gone
      · subst hgone
        cases hrecord.symm.trans held
        refine Or.inl ?_
        change x ∈ closings (p.store.close f).2
        rw [closings_close, hf]
        exact Option.mem_toList.2 hres
      · have hne : f ≠ g := by
          rintro rfl
          exact hgone (hr.distinct r gone f hrecord held)
        refine Or.inr ⟨r, f, s, (kept r).trans ((if_neg hgone).trans hrecord), ?_, hres⟩
        exact (FileStore.file_close p.store g f).trans ((if_neg hne).trans hf)

theorem Sealed.moves (hs : Sealed p) (hr : Registered p)
    (hm : ProcessMoves e p given closed p') : Sealed p' ∧ Registered p' := by
  induction hm with
  | nil => exact ⟨hs, hr⟩
  | cons first rest ih => exact ih (hs.move hr first) (hr.move first)

theorem Has.moves (hs : Sealed p) (hr : Registered p) (hm : ProcessMoves e p given closed p')
    (hx : x ∈ given ∨ p.Has x) : x ∈ closed ∨ p'.Has x := by
  induction hm with
  | nil => exact Or.inr (hx.resolve_left List.not_mem_nil)
  | cons first rest ih =>
    have hs' := hs.move hr first
    have hr' := hr.move first
    rw [List.mem_append, or_assoc]
    rcases hx with hgiven | hheld
    · rcases List.mem_append.1 hgiven with hnow | hlater
      · rcases Has.move hs hr first (Or.inl hnow) with hclosed | hheld'
        · exact Or.inl hclosed
        · exact Or.inr (ih hs' hr' (Or.inr hheld'))
      · exact Or.inr (ih hs' hr' (Or.inl hlater))
    · rcases Has.move hs hr first (Or.inr hheld) with hclosed | hheld'
      · exact Or.inl hclosed
      · exact Or.inr (ih hs' hr' (Or.inr hheld'))

/-! ### Where endpoints come from -/

/-- Some socket has this endpoint. -/
def Installed (p : Process) (y : Endpoint) : Prop :=
  ∃ f s, p.store.file f = .socket s ∧ s.endpoint = y

/-- What a socket has is never a server. -/
theorem Has.installed (hx : p.Has x) :
    ∃ y, p.Installed y ∧ y.resource? = some x ∧ ∀ id, x ≠ .server id := by
  obtain ⟨r, f, s, -, hf, hx⟩ := hx
  refine ⟨s.endpoint, ⟨f, s, hf, rfl⟩, hx, ?_⟩
  rintro id rfl
  generalize s.endpoint = y at hx
  cases y with
  | connected c peer =>
    obtain ⟨protocol, n, own, peer⟩ := c
    cases protocol <;> cases hx
  | unbound | bound | listening | datagram | closed => cases hx

/-- An endpoint with a resource was there or is brought by the answer. -/
theorem Installed.move {y : Endpoint} (hm : ProcessMove e p given closed p') (hy : p'.Installed y)
    (hx : y.resource? = some x) : p.Installed y ∨ e.Gives y := by
  obtain ⟨f, s, hf, rfl⟩ := hy
  cases hm with
  | keeps table nextFile files => exact Or.inl ⟨f, s, (files f).symm.trans hf, rfl⟩
  | opens new origin =>
    have hf := (p.store.file_add new f).symm.trans hf
    split at hf
    · subst hf
      cases origin with
      | plain _ hplain => cases hplain
      | unbound _ hs =>
        rw [hs] at hx
        cases hx
      | accepted file l next c protocol => exact Or.inr (.accepted file l next c)
    · exact Or.inl ⟨f, s, hf, rfl⟩
  | @turns file before event socket runs sound =>
    have hf := (p.store.file_set file (.socket (event.turn before).state) f).symm.trans hf
    split at hf
    · cases hf
      have hmoves := sound.moves
      have hbefore : p.Installed before.endpoint := ⟨file, before, socket, rfl⟩
      generalize (event.turn before).state.endpoint = y at hmoves hx
      generalize before.endpoint = z at hmoves hbefore
      cases hmoves with
      | stays => exact Or.inl hbefore
      | binds | givesBack | closes => cases hx
      | listens asked own l address tcp =>
        cases runs
        exact Or.inr (.listening ..)
      | connects asked own a c free =>
        cases runs
        exact Or.inr (.connected ..)
      | claims own use port free =>
        cases runs
        exact Or.inr (.datagram ..)
    · exact Or.inl ⟨f, s, hf, rfl⟩
  | @changes file store plain touches still =>
    exact Or.inl ⟨f, s, (touches.socket_iff plain still).1 hf, rfl⟩
  | @drops table shut accounted drops =>
    cases shut with
    | none => exact Or.inl ⟨f, s, hf, rfl⟩
    | some g =>
      rcases FileStore.socket_of_close hf with ⟨hf, -⟩ | hclosed
      · exact Or.inl ⟨f, s, hf, rfl⟩
      · -- what is closed has no resource
        rw [hclosed] at hx
        cases hx

theorem Installed.moves {y : Endpoint} (hm : ProcessMoves e p given closed p')
    (hy : p'.Installed y) (hx : y.resource? = some x) : p.Installed y ∨ e.Gives y := by
  induction hm with
  | nil => exact Or.inl hy
  | cons first rest ih =>
    rcases ih hy with hthere | hbrought
    · exact hthere.move first hx
    · exact Or.inr hbrought

/-! ### Calls that wait -/

/-- The file of a waiting call is a socket, over TCP if a listener was asked for; and what is
accepted is given a descriptor. -/
def Fits (p : Process) : ProcessPending → Prop
  | .onSocket file q next => file < p.store.nextFile ∧ (q.accepts = true ↔ next = .allocate) ∧
    ∃ s, p.store.file file = .socket s ∧
      ∀ protocol own, q = .listening protocol own → s.protocol = .tcp
  | .resolving .. => True

/-- A socket stays a socket of its protocol and its family. -/
theorem socket_move (hm : ProcessMove e p given closed p') {f : Nat} {s : Socket}
    (hlt : f < p.store.nextFile) (hf : p.store.file f = .socket s) :
    f < p'.store.nextFile ∧ ∃ s', p'.store.file f = .socket s' ∧ s'.protocol = s.protocol ∧
      s'.family = s.family := by
  cases hm with
  | keeps table nextFile files => exact ⟨nextFile ▸ hlt, s, (files f).trans hf, rfl, rfl⟩
  | opens new origin =>
    have hne : f ≠ p.store.nextFile := Nat.ne_of_lt hlt
    refine ⟨Nat.lt_succ_of_lt hlt, s, ?_, rfl, rfl⟩
    exact (p.store.file_add new f).trans ((if_neg hne).trans hf)
  | @turns file before event socket runs sound =>
    refine ⟨hlt, ?_⟩
    have hset := p.store.file_set file (.socket (event.turn before).state) f
    split at hset
    · rename_i heq
      subst heq
      cases socket.symm.trans hf
      exact ⟨_, hset, sound.same_protocol, sound.same_family⟩
    · exact ⟨s, hset.trans hf, rfl, rfl⟩
  | @changes file store plain touches still =>
    exact ⟨touches.nextFile ▸ hlt, s, (touches.socket_iff plain still).2 hf, rfl, rfl⟩
  | @drops table shut accounted drops =>
    cases shut with
    | none => exact ⟨hlt, s, hf, rfl, rfl⟩
    | some g =>
      refine ⟨(FileStore.touches_close p.store g).nextFile.symm ▸ hlt, ?_⟩
      have hclose := FileStore.file_close p.store g f
      split at hclose
      · rw [hf] at hclose
        exact ⟨s.withEndpoint .closed, hclose, rfl, rfl⟩
      · exact ⟨s, hclose.trans hf, rfl, rfl⟩

theorem Fits.moves {q : ProcessPending} (hfits : p.Fits q)
    (hm : ProcessMoves e p given closed p') : p'.Fits q := by
  cases q with
  | resolving => trivial
  | onSocket file q next =>
    obtain ⟨hlt, haccepts, s, hf, hlistens⟩ := hfits
    induction hm generalizing s with
    | nil => exact ⟨hlt, haccepts, s, hf, hlistens⟩
    | cons first rest ih =>
      obtain ⟨hlt', s', hf', hprotocol, -⟩ := socket_move first hlt hf
      exact ih hlt' s' hf' fun protocol own hq => hprotocol.trans (hlistens protocol own hq)

end Process

end SyscallBridge
