import Mathlib.Data.List.Induction
import Mathlib.Data.Nat.Digits.Defs
import SyscallBridge.Address.Network

/-!
# The grammar of dialed addresses

A text that is no numeric address is divided at its last colon. Behind the colon stands a port in
decimal, and in front of it a host, which may stand in square brackets and must do so if it holds a
colon itself. The reader takes one thing more than the grammar of numeric addresses has: a plus sign
in front of the port.
-/

namespace SyscallBridge.Dialed

/-! ### Ports -/

/-- The number that some digits stand for. The last one counts once, the one in front of it ten
times, and so on. -/
def number (ds : List Char) : Nat :=
  Nat.ofDigits 10 (ds.reverse.map fun c => c.toNat - '0'.toNat)

/-- Digits, at least one, and their number. -/
structure Decimal (cs : List Char) (n : Nat) : Prop where
  some : cs ≠ []
  digits : ∀ c ∈ cs, c.isDigit = true
  value : n = number cs

/-- What is taken for the port `p`: its digits, with a plus sign in front or without. -/
def WritesPort (cs : List Char) (p : UInt16) : Prop :=
  ∃ ds, (cs = ds ∨ cs = '+' :: ds) ∧ Decimal ds p.toNat

/-- The text without a plus sign in front. -/
def unsigned : List Char → List Char
  | '+' :: ds => ds
  | ds => ds

theorem unsigned_of_decimal {ds : List Char} {n : Nat} (h : Decimal ds n) : unsigned ds = ds := by
  unfold unsigned
  split
  · next rest =>
    have hplus := h.digits '+' List.mem_cons_self
    exact absurd hplus (by decide)
  · rfl

theorem foldl_eq_number (ds : List Char) :
    ds.foldl (fun n c => n * 10 + (c.toNat - 48)) 0 = number ds := by
  -- the fold has read the last digit last
  induction ds using List.reverseRecOn with
  | nil => rfl
  | append_singleton ds c ih =>
    rw [number] at ih ⊢
    rw [List.foldl_append, ih, List.reverse_append, List.reverse_singleton, List.singleton_append,
      List.map_cons, Nat.ofDigits_cons, List.foldl_cons, List.foldl_nil]
    have hzero : '0'.toNat = 48 := rfl
    omega

theorem portOfText?_eq (cs : List Char) : portOfText? cs =
    if unsigned cs ≠ [] ∧ (unsigned cs).all Char.isDigit = true then
      if number (unsigned cs) < 65536 then some (UInt16.ofNat (number (unsigned cs))) else none
    else none := by
  unfold portOfText?
  simp only [foldl_eq_number]
  rfl

theorem portOfText?_eq_some_iff_unsigned {cs : List Char} {p : UInt16} :
    portOfText? cs = some p ↔ Decimal (unsigned cs) p.toNat := by
  rw [portOfText?_eq]
  constructor
  · intro h
    split at h
    · next hdigits =>
      split at h
      · next hn =>
        cases h
        exact ⟨hdigits.1, List.all_eq_true.mp hdigits.2, UInt16.toNat_ofNat_of_lt' hn⟩
      · cases h
    · cases h
  · intro h
    rw [if_pos ⟨h.some, List.all_eq_true.mpr h.digits⟩, ← h.value, if_pos p.toNat_lt,
      UInt16.ofNat_toNat]

theorem portOfText?_eq_some_iff {cs : List Char} {p : UInt16} :
    portOfText? cs = some p ↔ WritesPort cs p := by
  rw [portOfText?_eq_some_iff_unsigned]
  constructor
  · intro h
    refine ⟨unsigned cs, ?_, h⟩
    unfold unsigned
    split
    · exact .inr rfl
    · exact .inl rfl
  · rintro ⟨ds, rfl | rfl, h⟩
    · rw [unsigned_of_decimal h]
      exact h
    · exact h

/-! ### The last colon -/

/-- The text stands as `host`, its last colon, and `port`. -/
structure Divided (cs host port : List Char) : Prop where
  text : cs = host ++ ':' :: port
  last : ':' ∉ port

theorem reverse_dropWhile_colon {cs host port : List Char} (h : Divided cs host port) :
    cs.reverse.dropWhile (· ≠ ':') = ':' :: host.reverse ∧
      cs.reverse.takeWhile (· ≠ ':') = port.reverse := by
  have hport : ∀ c ∈ port.reverse, decide (c ≠ ':') = true := by
    intro c hc
    apply decide_eq_true
    rintro rfl
    exact h.last (List.mem_reverse.mp hc)
  have hrev : cs.reverse = port.reverse ++ ':' :: host.reverse := by
    simp only [h.text, List.reverse_append, List.reverse_cons, List.append_assoc,
      List.singleton_append]
  constructor
  · rw [hrev, List.dropWhile_append_of_pos hport, List.dropWhile_cons_of_neg (by simp)]
  · rw [hrev, List.takeWhile_append_of_pos hport, List.takeWhile_cons_of_neg (by simp),
      List.append_nil]

theorem exists_divided {cs : List Char} (h : ':' ∈ cs) : ∃ host port, Divided cs host port := by
  induction cs with
  | nil => cases h
  | cons c cs ih =>
    by_cases hlater : ':' ∈ cs
    · obtain ⟨host, port, hdivided⟩ := ih hlater
      refine ⟨c :: host, port, ?_, hdivided.last⟩
      rw [hdivided.text, List.cons_append]
    · rcases List.mem_cons.mp h with rfl | hc
      · exact ⟨[], cs, rfl, hlater⟩
      · exact absurd hc hlater

theorem Divided.splitLastColon? {cs host port : List Char} (h : Divided cs host port) :
    splitLastColon? cs = some (host, port) := by
  obtain ⟨hdrop, htake⟩ := reverse_dropWhile_colon h
  unfold Dialed.splitLastColon?
  rw [hdrop, htake]
  simp only [List.reverse_reverse]

theorem splitLastColon?_eq_none {cs : List Char} (h : ':' ∉ cs) : splitLastColon? cs = none := by
  have hall : ∀ c ∈ cs.reverse, decide (c ≠ ':') = true := by
    intro c hc
    apply decide_eq_true
    rintro rfl
    exact h (List.mem_reverse.mp hc)
  have hdrop : (cs.reverse ++ []).dropWhile (· ≠ ':') = [] := List.dropWhile_append_of_pos hall
  rw [List.append_nil] at hdrop
  unfold splitLastColon?
  rw [hdrop]

/-! ### Hosts -/

def Bracketed (host : List Char) : Prop := ∃ inner, host = '[' :: (inner ++ [']'])

/-- The name of a host: what stands in its brackets, or the host itself if it has none. -/
inductive Names : List Char → List Char → Prop
  | inner (name : List Char) : Names ('[' :: (name ++ [']'])) name
  | bare {host : List Char} (bare : ¬ Bracketed host) (colon : ':' ∉ host) : Names host host

theorem unbracket?_eq_some_iff {host inner : List Char} :
    unbracket? host = some inner ↔ host = '[' :: (inner ++ [']']) := by
  constructor
  · intro h
    unfold unbracket? at h
    split at h
    · next rest =>
      split at h
      · next hlast =>
        obtain ⟨ys, hys⟩ := List.getLast?_eq_some_iff.mp hlast
        rw [hys, List.dropLast_concat] at h
        cases h
        rw [hys]
      · cases h
    · cases h
  · rintro rfl
    rw [unbracket?, if_pos List.getLast?_concat, List.dropLast_concat]

theorem unbracket?_eq_none {host : List Char} (h : ¬ Bracketed host) : unbracket? host = none := by
  cases hinner : unbracket? host with
  | none => rfl
  | some inner => exact absurd ⟨inner, unbracket?_eq_some_iff.mp hinner⟩ h

theorem not_names_iff {host : List Char} :
    (∀ name, ¬ Names host name) ↔ ':' ∈ host ∧ ¬ Bracketed host := by
  constructor
  · intro h
    have hb : ¬ Bracketed host := by
      rintro ⟨inner, rfl⟩
      exact h inner (.inner inner)
    refine ⟨?_, hb⟩
    by_contra hcolon
    exact h host (.bare hb hcolon)
  · rintro ⟨hcolon, hb⟩ name h
    cases h with
    | inner => exact hb ⟨_, rfl⟩
    | bare _ hnone => exact hnone hcolon

/-! ### Whole texts -/

def Numeric (s : String) : Prop := ∃ a, SockAddr.parse s = .ok a

/-- The text is no numeric address, and stands for a name and a port. -/
structure Parts (s : String) (name : List Char) (p : UInt16) : Prop where
  other : ¬ Numeric s
  parts : ∃ host port, Divided s.toList host port ∧ WritesPort port p ∧ Names host name

/-- The text has no colon, or no port behind its last one, or a host with a colon but no brackets. -/
def Unreadable (s : String) : Prop :=
  ':' ∉ s.toList ∨ ∃ host port, Divided s.toList host port ∧
    ((∀ p, ¬ WritesPort port p) ∨ (':' ∈ host ∧ ¬ Bracketed host))

/-- What a name and a port stand for. -/
def ofParts (name : List Char) (p : UInt16) : Dialed :=
  if name = [] then .wildcard p else .named (String.ofList name) p

theorem parse?_of_numeric {s : String} {a : SockAddr} (h : SockAddr.parse s = .ok a) :
    parse? s = some (.numeric a) := by
  rw [parse?, h]

theorem parse?_of_parts {s : String} {name : List Char} {p : UInt16} (h : Parts s name p) :
    parse? s = some (ofParts name p) := by
  obtain ⟨host, port, hdivided, hport, hname⟩ := h.parts
  unfold parse?
  split
  · next a ha => exact absurd ⟨a, ha⟩ h.other
  · simp only [hdivided.splitLastColon?, portOfText?_eq_some_iff.mpr hport, Option.bind_eq_bind,
      Option.bind_some]
    cases hname with
    | inner =>
      rw [unbracket?_eq_some_iff.mpr rfl]
      rfl
    | bare hbare hcolon =>
      rw [unbracket?_eq_none hbare]
      dsimp only
      rw [if_neg hcolon]
      rfl

theorem Parts.unique {s : String} {name name' : List Char} {p p' : UInt16} (h : Parts s name p)
    (h' : Parts s name' p') : name = name' ∧ p = p' := by
  have hsame := (parse?_of_parts h).symm.trans (parse?_of_parts h')
  unfold ofParts at hsame
  split at hsame <;> split at hsame
  · next hname hname' =>
    cases hsame
    exact ⟨hname.trans hname'.symm, rfl⟩
  · cases hsame
  · cases hsame
  · have hnamed := Dialed.named.inj (Option.some.inj hsame)
    exact ⟨String.ofList_inj.mp hnamed.1, hnamed.2⟩

theorem parse?_of_unreadable {s : String} (hn : ¬ Numeric s) (h : Unreadable s) :
    parse? s = none := by
  unfold parse?
  split
  · next a ha => exact absurd ⟨a, ha⟩ hn
  · rcases h with hcolon | ⟨host, port, hdivided, hbad⟩
    · rw [splitLastColon?_eq_none hcolon]
      rfl
    · simp only [hdivided.splitLastColon?, Option.bind_eq_bind, Option.bind_some]
      cases hport : portOfText? port with
      | none => rfl
      | some p =>
        rcases hbad with hbad | hhost
        · exact absurd (portOfText?_eq_some_iff.mp hport) (hbad p)
        · rw [unbracket?_eq_none hhost.2]
          simp only [Option.bind_some, if_pos hhost.1, Option.bind_none]

/-- Every text is numeric, or stands for a name and a port, or is unreadable. -/
theorem numeric_or_parts_or_unreadable (s : String) :
    Numeric s ∨ (∃ name p, Parts s name p) ∨ (¬ Numeric s ∧ Unreadable s) := by
  by_cases hn : Numeric s
  · exact .inl hn
  right
  by_cases hcolon : ':' ∈ s.toList
  · obtain ⟨host, port, hdivided⟩ := exists_divided hcolon
    by_cases hport : ∃ p, WritesPort port p
    · obtain ⟨p, hp⟩ := hport
      by_cases hname : ∃ name, Names host name
      · obtain ⟨name, hname⟩ := hname
        exact .inl ⟨name, p, hn, host, port, hdivided, hp, hname⟩
      · have hbad := not_names_iff.mp (not_exists.mp hname)
        exact .inr ⟨hn, .inr ⟨host, port, hdivided, .inr hbad⟩⟩
    · exact .inr ⟨hn, .inr ⟨host, port, hdivided, .inl (not_exists.mp hport)⟩⟩
  · exact .inr ⟨hn, .inl hcolon⟩

/-- Exactly the unreadable texts are refused. -/
theorem parse?_eq_none_iff {s : String} : parse? s = none ↔ ¬ Numeric s ∧ Unreadable s := by
  constructor
  · intro h
    rcases numeric_or_parts_or_unreadable s with ⟨a, ha⟩ | ⟨name, p, hparts⟩ | hbad
    · rw [parse?_of_numeric ha] at h
      cases h
    · rw [parse?_of_parts hparts] at h
      cases h
    · exact hbad
  · rintro ⟨hn, hbad⟩
    exact parse?_of_unreadable hn hbad

end SyscallBridge.Dialed
