import Mathlib.Data.List.Induction
import SyscallBridge.Proofs.Process.Surroundings
import SyscallBridge.Proofs.Text.Uppercase

/-!
# Environment variables over a run

A variable has the value it was last set to, under any key with the same uppercase form, until such
a key is unset. The listing has each variable once, and since no key has an equals sign, the first
one of an entry ends its key.
-/

namespace SyscallBridge

/-- A key that a variable can be set under. -/
def Settable (key : String) : Prop := key ≠ "" ∧ '=' ∉ key.toList

/-- A text in front of its first `=`, and behind it. -/
def splitAtEquals (text : String) : Option (String × String) :=
  match text.toList.dropWhile fun c => c ≠ '=' with
  | [] => none
  | _ :: value =>
    some (String.ofList (text.toList.takeWhile fun c => c ≠ '='), String.ofList value)

theorem splitAtEquals_append {key : String} (h : '=' ∉ key.toList) (value : String) :
    splitAtEquals (key ++ "=" ++ value) = some (key, value) := by
  have hkey : ∀ c ∈ key.toList, decide (c ≠ '=') = true := by
    intro c hc
    refine decide_eq_true ?_
    rintro rfl
    exact h hc
  have htext : (key ++ "=" ++ value).toList = key.toList ++ '=' :: value.toList := by
    simp [String.toList_append]
  unfold splitAtEquals
  rw [htext, List.takeWhile_append_of_pos hkey, List.dropWhile_append_of_pos hkey]
  simp

namespace Environment

theorem sorted_perm (e : Environment) : e.sorted.Perm e.vars.entries :=
  List.mergeSort_perm _ _

theorem mem_sorted {e : Environment} (h : e.vars.keys.Nodup) {name value : String} :
    (name, value) ∈ e.sorted ↔ e.vars.find? name = some value := by
  rw [e.sorted_perm.mem_iff, Assoc.mem_entries_iff h]

theorem sorted_increasing {e : Environment} (h : e.vars.keys.Nodup) :
    e.sorted.Pairwise fun a b => a.1 < b.1 := by
  have hle : e.sorted.Pairwise fun a b => decide (a.1 ≤ b.1) = true := by
    refine List.pairwise_mergeSort (fun a b c hab hbc => ?_) (fun a b => ?_) _
    · exact decide_eq_true (String.le_trans (of_decide_eq_true hab) (of_decide_eq_true hbc))
    · simpa using String.le_total a.1 b.1
  have hne : e.sorted.Pairwise fun a b => a.1 ≠ b.1 :=
    List.pairwise_map.mp ((e.sorted_perm.map Prod.fst).nodup_iff.mpr h)
  refine (hle.and hne).imp fun {a b} hab => ?_
  exact lt_of_le_of_ne (of_decide_eq_true hab.1) hab.2

/-- What an event does to the variables. -/
inductive Move (e : Environment) : ProcessEvent → Environment → Prop
  | set {key : String} (value : String) (h : Settable key) :
    Move e (.call (.setenv key value)) (e.set key value)
  | unset (key : String) : Move e (.call (.unsetenv key)) (e.unset key)
  | keep {event : ProcessEvent}
    (hset : ∀ key value, event = .call (.setenv key value) → ¬ Settable key)
    (hunset : ∀ key, event ≠ .call (.unsetenv key)) : Move e event e

end Environment

/-! ### The last change -/

/-- An event that sets or removes the variable with an uppercase key. -/
def ProcessEvent.Changes (event : ProcessEvent) (name : String) : Prop :=
  (∃ key value, event = .call (.setenv key value) ∧ Settable key ∧ uppercase key = name) ∨
    ∃ key, event = .call (.unsetenv key) ∧ uppercase key = name

/-- The variable with an uppercase key has a value after some events: the last event that changed it
set it to that, or none did and it is the temp directory as configured. -/
def Live (s : Settings) (events : List ProcessEvent) (name value : String) : Prop :=
  (∃ earlier key later, events = earlier ++ .call (.setenv key value) :: later ∧ Settable key ∧
    uppercase key = name ∧ ∀ event ∈ later, ¬ event.Changes name) ∨
  (name = Environment.tmpKey ∧ value = s.tmpDir ∧ ∀ event ∈ events, ¬ event.Changes name)

theorem live_nil {s : Settings} {name value : String} :
    Live s [] name value ↔ name = Environment.tmpKey ∧ value = s.tmpDir := by
  constructor
  · rintro (⟨earlier, key, later, hevents, -⟩ | ⟨hname, hvalue, -⟩)
    · cases earlier <;> cases hevents
    · exact ⟨hname, hvalue⟩
  · rintro ⟨hname, hvalue⟩
    exact .inr ⟨hname, hvalue, List.forall_mem_nil _⟩

theorem live_concat {s : Settings} {events : List ProcessEvent} {event : ProcessEvent}
    {name value : String} : Live s (events ++ [event]) name value ↔
      (∃ key, event = .call (.setenv key value) ∧ Settable key ∧ uppercase key = name) ∨
      (¬ event.Changes name ∧ Live s events name value) := by
  constructor
  · rintro (⟨earlier, key, later, hevents, hkey, hname, hlater⟩ | ⟨hname, hvalue, hkept⟩)
    · rcases List.eq_nil_or_concat later with rfl | ⟨later, last, rfl⟩
      · obtain ⟨-, hevent⟩ := List.append_inj' hevents rfl
        exact .inl ⟨key, List.head_eq_of_cons_eq hevent, hkey, hname⟩
      · rw [List.concat_eq_append, ← List.cons_append, ← List.append_assoc] at hevents
        obtain ⟨rfl, hevent⟩ := List.append_inj' hevents rfl
        obtain rfl := List.head_eq_of_cons_eq hevent
        refine .inr ⟨hlater _ (by simp), .inl ⟨earlier, key, later, rfl, hkey, hname, ?_⟩⟩
        exact fun other ho => hlater other (by simp [ho])
    · refine .inr ⟨hkept event (by simp), .inr ⟨hname, hvalue, ?_⟩⟩
      exact fun other ho => hkept other (List.mem_append_left _ ho)
  · rintro (⟨key, rfl, hkey, hname⟩ | ⟨hevent, hlive⟩)
    · exact .inl ⟨events, key, [], rfl, hkey, hname, List.forall_mem_nil _⟩
    · have hkept {others : List ProcessEvent} (h : ∀ other ∈ others, ¬ other.Changes name) :
          ∀ other ∈ others ++ [event], ¬ other.Changes name := by
        intro other ho
        rcases List.mem_append.mp ho with ho | ho
        · exact h other ho
        · exact List.mem_singleton.mp ho ▸ hevent
      rcases hlive with ⟨earlier, key, later, rfl, hkey, hname, hlater⟩ | ⟨hname, hvalue, hall⟩
      · refine .inl ⟨earlier, key, later ++ [event], ?_, hkey, hname, hkept hlater⟩
        rw [List.append_assoc, List.cons_append]
      · exact .inr ⟨hname, hvalue, hkept hall⟩

theorem Live.equals_not_mem {s : Settings} {events : List ProcessEvent} {name value : String}
    (h : Live s events name value) : '=' ∉ name.toList := by
  rcases h with ⟨_, key, _, -, hkey, rfl, -⟩ | ⟨rfl, -⟩
  · exact fun hmem => hkey.2 (equals_mem_uppercase.mp hmem)
  · decide

/-! ### Steps -/

namespace Environment

variable {e e' : Environment} {event : ProcessEvent}

theorem Move.of_eq (h : e' = e) (hset : ∀ key value, event ≠ .call (.setenv key value))
    (hunset : ∀ key, event ≠ .call (.unsetenv key)) : e.Move event e' := by
  rw [h]
  exact .keep (fun key value he => absurd he (hset key value)) hunset

theorem Move.find?_vars (h : e.Move event e') (name value : String) :
    e'.vars.find? name = some value ↔
      (∃ key, event = .call (.setenv key value) ∧ Settable key ∧ uppercase key = name) ∨
      (¬ event.Changes name ∧ e.vars.find? name = some value) := by
  cases h with
  | @set key v hkey =>
    change (e.vars.insert (uppercase key) v).find? name = _ ↔ _
    have hchanges : (ProcessEvent.call (.setenv key v)).Changes name ↔ uppercase key = name := by
      simp [ProcessEvent.Changes, hkey]
    rw [Assoc.find?_insert, hchanges]
    by_cases heq : uppercase key = name
    · simp [heq, hkey, eq_comm]
    · simp [heq, Ne.symm heq]
  | unset key =>
    change (e.vars.erase (uppercase key)).find? name = _ ↔ _
    have hchanges : (ProcessEvent.call (.unsetenv key)).Changes name ↔ uppercase key = name := by
      simp [ProcessEvent.Changes]
    rw [Assoc.find?_erase, hchanges]
    by_cases heq : uppercase key = name
    · simp [heq]
    · simp [heq, Ne.symm heq]
  | keep hset hunset =>
    have hkept : ¬ event.Changes name := by
      rintro (⟨key, v, hevent, hkey, -⟩ | ⟨key, hevent, -⟩)
      · exact hset key v hevent hkey
      · exact hunset key hevent
    constructor
    · exact fun hv => .inr ⟨hkept, hv⟩
    · rintro (⟨key, hevent, hkey, -⟩ | ⟨-, hv⟩)
      · exact absurd hkey (hset key value hevent)
      · exact hv

theorem Move.nodup (h : e.Move event e') (he : e.vars.keys.Nodup) : e'.vars.keys.Nodup := by
  cases h with
  | set value _ => exact Assoc.nodup_keys_insert he _ value
  | unset key => exact Assoc.nodup_keys_erase he _
  | keep _ _ => exact he

end Environment

namespace Process

variable {p : Process}

theorem environmentMove_setenv (key value : String) :
    p.environment.Move (.call (.setenv key value)) (p.startSetenv key value).state.environment := by
  unfold startSetenv
  split
  · next hkey =>
    refine .keep (fun k v he => ?_) nofun
    cases he
    exact fun h => hkey.elim h.1 h.2
  · next hkey => exact .set value (not_or.mp hkey)

theorem environment_open (path : String) (flags : OpenFlags) :
    (p.startOpen path flags).state.environment = p.environment := by
  unfold startOpen
  split <;> rfl

theorem environment_onTree (r : Except CallError FileSystem) :
    (p.onTree r).state.environment = p.environment := by cases r <;> rfl

theorem environmentMove_next (p : Process) (event : ProcessEvent) :
    p.environment.Move event (p.next event).environment := by
  cases event with
  | answer q a => exact .of_eq (Undisturbed.parts (parts_resume p q a)).environment nofun nofun
  | call c =>
    cases c with
    | setenv key value => exact environmentMove_setenv key value
    | unsetenv key => exact .unset key
    | open_ path flags => exact .of_eq (environment_open path flags) nofun nofun
    | onFile fd c => exact .of_eq (Undisturbed.startOnFile fd c).environment nofun nofun
    | mkdir | rmdir | unlink => exact .of_eq (environment_onTree _) nofun nofun
    | symlink => exact .of_eq rfl nofun nofun
    | close | dup | dup2 | socket | onSocket | resolve | dial | fsync | stat | readlink | getenv
    | environ | getpid | missing =>
      exact .of_eq (Undisturbed.parts (parts_start p rfl)).environment nofun nofun

/-! ### Runs -/

theorem run_concat (p : Process) (events : List ProcessEvent) (event : ProcessEvent) :
    p.run (events ++ [event]) = (p.run events).next event := List.foldl_append

theorem nodup_vars_run (s : Settings) (events : List ProcessEvent) :
    ((create s).run events).environment.vars.keys.Nodup := by
  induction events using List.reverseRecOn with
  | nil => exact List.pairwise_singleton _ Environment.tmpKey
  | append_singleton events event ih =>
    rw [run_concat]
    exact (environmentMove_next _ event).nodup ih

theorem find?_vars_run (s : Settings) (events : List ProcessEvent) (name value : String) :
    ((create s).run events).environment.vars.find? name = some value ↔
      Live s events name value := by
  induction events using List.reverseRecOn with
  | nil =>
    change (Assoc.insert {} Environment.tmpKey s.tmpDir).find? name = _ ↔ _
    rw [Assoc.find?_insert, live_nil]
    by_cases heq : name = Environment.tmpKey <;> simp [heq, eq_comm]
  | append_singleton events event ih =>
    rw [run_concat, (environmentMove_next _ event).find?_vars, ih, live_concat]

theorem mem_sorted_run (s : Settings) (events : List ProcessEvent) (name value : String) :
    (name, value) ∈ ((create s).run events).environment.sorted ↔ Live s events name value := by
  rw [Environment.mem_sorted (nodup_vars_run s events), find?_vars_run]

/-! ### What the calls answer -/

theorem start_setenv_ok_iff (p : Process) (key value : String) :
    (∃ p', p.start (.setenv key value) = .ok p' .done) ↔ Settable key := by
  change (∃ p', p.startSetenv key value = .ok p' .done) ↔ _
  unfold startSetenv
  constructor
  · rintro ⟨p', h⟩
    split at h
    · cases congrArg Turn.progress h
    · next hkey => exact not_or.mp hkey
  · intro h
    rw [if_neg (not_or.mpr h)]
    exact ⟨_, rfl⟩

theorem start_getenv_progress (p : Process) (key : String) :
    (p.start (.getenv key)).progress =
      .done (.ok (.maybeText (p.environment.vars.find? (uppercase key)))) := by
  change (p.startGetenv key).progress = _
  unfold startGetenv Environment.get
  dsimp only
  cases p.environment.vars.find? (uppercase key) <;> rfl

/-- After any calls `getenv` gives what the variable was last set to and not since unset, under
whatever key of the same uppercase form, and `environ` lists just these variables, each once and in
the order of their uppercase keys, as texts that split at their first `=`. -/
theorem variables_last_set (s : Settings) (events : List ProcessEvent) :
    let p := (create s).run events
    (∀ key value, (∃ p', p.start (.setenv key value) = .ok p' .done) ↔ Settable key) ∧
    (∀ key, ∃ value : Option String,
      (p.start (.getenv key)).progress = .done (.ok (.maybeText value)) ∧
      ∀ v, value = some v ↔ Live s events (uppercase key) v) ∧
    ∃ texts, p.start .environ = .ok p (.texts texts) ∧
      ∃ vars : List (String × String), texts.map splitAtEquals = vars.map some ∧
        (vars.Pairwise fun a b => a.1 < b.1) ∧
        ∀ name value, (name, value) ∈ vars ↔ Live s events name value := by
  intro p
  have hsplit : p.environment.list.map splitAtEquals = p.environment.sorted.map some := by
    unfold Environment.list
    rw [List.map_map]
    refine List.map_congr_left fun var hvar => ?_
    exact splitAtEquals_append ((mem_sorted_run s events var.1 var.2).mp hvar).equals_not_mem var.2
  refine ⟨start_setenv_ok_iff p, fun key => ?_, p.environment.list, rfl, p.environment.sorted,
    hsplit, Environment.sorted_increasing (nodup_vars_run s events), mem_sorted_run s events⟩
  exact ⟨_, start_getenv_progress p key, find?_vars_run s events (uppercase key)⟩

end Process

end SyscallBridge
