import SyscallBridge.Address.Network
import SyscallBridge.Proofs.Address.Digits

/-!
# Addresses read back

The text of an address reads back as that address. For IPv6 this has three cases, one for each way
the text is written: with an IPv4 address at the end, with a run of zeros left out, and with all
eight groups. In each, `readGroups` takes what `groupsText` wrote and stops at the end of it.
-/

namespace SyscallBridge.AddressText

/-! ### IPv4 -/

theorem ipv4Text_append (ip : Ipv4) (rest : Rest) :
    ip.text ++ rest = decimal ip.a.toNat ++ ('.' :: (decimal ip.b.toNat ++
      ('.' :: (decimal ip.c.toNat ++ ('.' :: (decimal ip.d.toNat ++ rest)))))) := by
  simp only [Ipv4.text, List.append_assoc, List.cons_append]

theorem readIpv4?_text (ip : Ipv4) {rest : Rest} (hs : Stops 10 rest) :
    readIpv4? (ip.text ++ rest) = some (ip, rest) := by
  have hdot : ∀ cs : Rest, Stops 10 ('.' :: cs) := fun cs => stops_cons (by decide)
  rw [ipv4Text_append, readIpv4?, readOctet?_decimal ip.a (hdot _)]
  simp only [Option.bind_eq_bind, Option.bind_some, readChar?, if_true]
  rw [readOctet?_decimal ip.b (hdot _)]
  simp only [Option.bind_some, if_true]
  rw [readOctet?_decimal ip.c (hdot _)]
  simp only [Option.bind_some, if_true]
  rw [readOctet?_decimal ip.d hs]
  rfl

/-- Four octets need a dot behind the first digits. -/
theorem readIpv4?_of_no_dot {cs : Rest} (h : (spanDigits 10 cs).2.head? ≠ some '.') :
    readIpv4? cs = none := by
  cases hn : readNumber? 10 (some 3) false 256 cs with
  | none => simp only [readIpv4?, readOctet?, hn, Option.map_none, Option.bind_eq_bind,
      Option.bind_none]
  | some found =>
    obtain ⟨n, rest⟩ := found
    have hrest := readNumber?_rest hn
    have hdot : readChar? '.' rest = none := by
      rw [hrest]
      cases hc : (spanDigits 10 cs).2 with
      | nil => rfl
      | cons c cs' =>
        rw [hc] at h
        rw [readChar?, if_neg fun he => h (by rw [he, List.head?_cons])]
    simp only [readIpv4?, readOctet?, hn, Option.map_some, Option.bind_eq_bind, Option.bind_some,
      hdot, Option.bind_none]

/-! ### Groups -/

/-- What may follow the groups of an address: a gap or the closing bracket. -/
inductive GroupsEnd : Rest → Prop where
  | gap (rest : Rest) : GroupsEnd (':' :: ':' :: rest)
  | bracket (rest : Rest) : GroupsEnd (']' :: rest)

/-- Groups with a colon in front of each. -/
def linked (gs : List UInt16) : List Char := gs.flatMap fun g => ':' :: Nat.toDigits 16 g.toNat

theorem linked_cons (g : UInt16) (gs : List UInt16) (rest : Rest) :
    linked (g :: gs) ++ rest = ':' :: (Nat.toDigits 16 g.toNat ++ (linked gs ++ rest)) := by
  simp only [linked, List.flatMap_cons, List.cons_append, List.append_assoc]

theorem groupsText_cons (g : UInt16) (gs : List UInt16) :
    Ipv6.groupsText (g :: gs) = Nat.toDigits 16 g.toNat ++ linked gs := by
  induction gs generalizing g with
  | nil => simp only [Ipv6.groupsText, linked, List.flatMap_nil, List.append_nil]
  | cons g' gs ih =>
    rw [Ipv6.groupsText, ih g']
    · simp only [linked, List.flatMap_cons, List.cons_append]
    · intro h
      cases h

theorem linked_head {gs : List UInt16} {rest : Rest} (he : GroupsEnd rest) :
    ∃ c cs, linked gs ++ rest = c :: cs ∧ (c = ':' ∨ c = ']') := by
  cases gs with
  | nil =>
    cases he with
    | gap rest => exact ⟨':', _, rfl, Or.inl rfl⟩
    | bracket rest => exact ⟨']', _, rfl, Or.inr rfl⟩
  | cons g gs => exact ⟨':', _, linked_cons g gs rest, Or.inl rfl⟩

theorem stops_of_colon_or_bracket {radix : Nat} {c : Char} (cs : Rest) (h : c = ':' ∨ c = ']') :
    Stops radix (c :: cs) := by
  apply stops_cons
  rcases h with h | h <;> rw [h] <;> decide

/-- A group is no octet: no dot follows its digits. -/
theorem readIpv4?_group (g : UInt16) {c : Char} (cs : Rest) (h : c = ':' ∨ c = ']') :
    readIpv4? (Nat.toDigits 16 g.toNat ++ c :: cs) = none := by
  have hdigit : ∀ d, d < 16 → d.digitChar ≠ '.' := by decide
  have hspan : ∀ ds : List Nat, (∀ d ∈ ds, d < 16) →
      (spanDigits 10 (ds.map Nat.digitChar ++ c :: cs)).2.head? ≠ some '.' := by
    intro ds
    induction ds with
    | nil =>
      intro _
      have hc : digit? 10 c = none := stops_of_colon_or_bracket cs h c rfl
      have hne : c ≠ '.' := by
        rcases h with h | h <;> rw [h] <;> decide
      rw [List.map_nil, List.nil_append, spanDigits, hc]
      intro heq
      exact hne (Option.some.inj heq)
    | cons d ds ih =>
      intro hd
      rw [List.map_cons, List.cons_append, spanDigits]
      cases digit? 10 d.digitChar with
      | some n => exact ih fun x hx => hd x (List.mem_cons_of_mem _ hx)
      | none =>
        intro heq
        exact hdigit d (hd d List.mem_cons_self) (Option.some.inj heq)
  have hradix : 1 < 16 := by omega
  obtain ⟨ds, w⟩ := exists_written hradix g.toNat
  rw [w.text]
  exact readIpv4?_of_no_dot (hspan ds w.lt)

theorem readIpv4?_of_stops {cs : Rest} (h : Stops 10 cs) : readIpv4? cs = none := by
  simp only [readIpv4?, readOctet?, readNumber?_of_stops h, Option.map_none, Option.bind_eq_bind,
    Option.bind_none]

theorem readGroup?_of_stops {cs : Rest} (h : Stops 16 cs) : readGroup? cs = none := by
  rw [readGroup?, readNumber?_of_stops h, Option.map_none]

theorem readGroups_end {first : Bool} {room : Nat} {rest : Rest} (he : GroupsEnd rest) :
    readGroups first room rest = ([], false, rest) := by
  have hstop : ∀ cs, GroupsEnd cs → readIpv4? cs = none ∧ readGroup? cs = none := by
    intro cs hcs
    have hs : ∀ radix, Stops radix cs := by
      intro radix
      cases hcs with
      | gap => exact stops_of_colon_or_bracket _ (Or.inl rfl)
      | bracket => exact stops_of_colon_or_bracket _ (Or.inr rfl)
    exact ⟨readIpv4?_of_stops (hs 10), readGroup?_of_stops (hs 16)⟩
  have hcolon : ∀ cs : Rest, readIpv4? (':' :: cs) = none ∧ readGroup? (':' :: cs) = none :=
    fun cs => ⟨readIpv4?_of_stops (stops_of_colon_or_bracket cs (Or.inl rfl)),
      readGroup?_of_stops (stops_of_colon_or_bracket cs (Or.inl rfl))⟩
  cases room with
  | zero => rfl
  | succ room =>
    cases first with
    | true =>
      obtain ⟨h4, h6⟩ := hstop rest he
      simp only [readGroups, readColon?, if_true, Option.bind_some, h4, h6, ite_self]
    | false =>
      cases he with
      | gap rest =>
        obtain ⟨h4, h6⟩ := hcolon rest
        simp only [readGroups, readColon?, Bool.false_eq_true, if_false, readChar?, if_true,
          Option.bind_some, h4, h6, ite_self]
      | bracket rest =>
        have hne : ¬ (']' = ':') := by decide
        simp only [readGroups, readColon?, Bool.false_eq_true, if_false, readChar?, if_neg hne,
          Option.bind_none]

theorem readGroups_group {first : Bool} {room : Nat} {cs rest : Rest} (g : UInt16)
    (hc : readColon? first cs = some (Nat.toDigits 16 g.toNat ++ rest))
    (hr : ∃ c cs', rest = c :: cs' ∧ (c = ':' ∨ c = ']')) :
    readGroups first (room + 1) cs =
      (g :: (readGroups false room rest).1, (readGroups false room rest).2) := by
  obtain ⟨c, cs', rfl, hcc⟩ := hr
  have h4 := readIpv4?_group g cs' hcc
  have h6 := readGroup?_toDigits g (stops_of_colon_or_bracket cs' hcc)
  simp only [readGroups, hc, Option.bind_some, h4, ite_self, h6]

theorem readGroups_linked {gs : List UInt16} {room : Nat} {rest : Rest} (hl : gs.length ≤ room)
    (he : GroupsEnd rest) : readGroups false room (linked gs ++ rest) = (gs, false, rest) := by
  induction gs generalizing room with
  | nil => exact readGroups_end he
  | cons g gs ih =>
    cases room with
    | zero => exact absurd hl (Nat.not_succ_le_zero _)
    | succ room =>
      have hc : readColon? false (linked (g :: gs) ++ rest) =
          some (Nat.toDigits 16 g.toNat ++ (linked gs ++ rest)) := by
        simp only [linked_cons, readColon?, Bool.false_eq_true, if_false, readChar?, if_true]
      rw [readGroups_group g hc (linked_head he), ih (Nat.le_of_succ_le_succ hl)]

theorem readGroups_text {gs : List UInt16} {room : Nat} {rest : Rest} (hl : gs.length ≤ room)
    (he : GroupsEnd rest) :
    readGroups true room (Ipv6.groupsText gs ++ rest) = (gs, false, rest) := by
  cases gs with
  | nil => exact readGroups_end he
  | cons g gs =>
    cases room with
    | zero => exact absurd hl (Nat.not_succ_le_zero _)
    | succ room =>
      have hc : readColon? true (Ipv6.groupsText (g :: gs) ++ rest) =
          some (Nat.toDigits 16 g.toNat ++ (linked gs ++ rest)) := by
        rw [groupsText_cons, List.append_assoc]
        rfl
      rw [readGroups_group g hc (linked_head he), readGroups_linked (Nat.le_of_succ_le_succ hl) he]

/-! ### IPv6 -/

theorem leadingZeros_split (gs : List UInt16) :
    gs = List.replicate (Ipv6.leadingZeros gs) 0 ++ gs.drop (Ipv6.leadingZeros gs) := by
  induction gs with
  | nil => rfl
  | cons g gs ih =>
    by_cases hg : g = 0
    · rw [Ipv6.leadingZeros, if_pos hg, List.replicate_succ, List.drop_succ_cons, List.cons_append,
        ← ih, hg]
    · rw [Ipv6.leadingZeros, if_neg hg, List.replicate_zero, List.drop_zero, List.nil_append]

/-- What `longestZeros` finds is a run of zeros. -/
theorem longestZeros_split (gs : List UInt16) :
    gs = gs.take (Ipv6.longestZeros gs).1 ++ (List.replicate (Ipv6.longestZeros gs).2 0 ++
      gs.drop ((Ipv6.longestZeros gs).1 + (Ipv6.longestZeros gs).2)) := by
  induction gs with
  | nil => rfl
  | cons g gs ih =>
    by_cases hle : (Ipv6.longestZeros gs).2 ≤ Ipv6.leadingZeros (g :: gs)
    · have hz : Ipv6.longestZeros (g :: gs) = (0, Ipv6.leadingZeros (g :: gs)) := by
        simp only [Ipv6.longestZeros, if_pos hle]
      rw [hz, List.take_zero, List.nil_append, Nat.zero_add]
      exact leadingZeros_split (g :: gs)
    · have hz : Ipv6.longestZeros (g :: gs) =
          ((Ipv6.longestZeros gs).1 + 1, (Ipv6.longestZeros gs).2) := by
        simp only [Ipv6.longestZeros, if_neg hle]
      rw [hz]
      simp only [List.take_succ_cons, List.cons_append, Nat.add_right_comm _ 1,
        List.drop_succ_cons]
      rw [← ih]

theorem ofGroups?_groups (ip : Ipv6) : Ipv6.ofGroups? ip.groups = some ip := by
  rw [Ipv6.ofGroups?, dif_pos ip.length_groups]

theorem mapped?_groups {ip : Ipv6} {v4 : Ipv4} (h : ip.mapped? = some v4) :
    ip.groups = [0, 0, 0, 0, 0, 0xFFFF, wordOfBytes v4.a v4.b, wordOfBytes v4.c v4.d] := by
  obtain ⟨gs, hgs⟩ := ip
  simp only [Ipv6.mapped?] at h
  split at h
  · cases h
    simp only [wordOfBytes_wordBytes]
  · cases h

theorem readGroups_ipv4 {room : Nat} (v4 : Ipv4) {rest : Rest} (hr : 1 ≤ room)
    (hs : Stops 10 rest) :
    readGroups false (room + 1) (':' :: (v4.text ++ rest)) =
      ([wordOfBytes v4.a v4.b, wordOfBytes v4.c v4.d], true, rest) := by
  have hread := readIpv4?_text v4 hs
  have hcolon : readColon? false (':' :: (v4.text ++ rest)) = some (v4.text ++ rest) := by
    simp only [readColon?, Bool.false_eq_true, if_false, readChar?, if_true]
  simp only [readGroups, hcolon, Option.bind_some, if_pos hr, hread]

/-- Groups before a gap, groups behind it, and zeros for the gap. -/
theorem readIpv6?_gap {ip : Ipv6} {front back : List UInt16} {embedded : Bool} {cs mid rest : Rest}
    (hfront : readGroups true 8 cs = (front, false, ':' :: ':' :: mid)) (hlt : front.length < 8)
    (hback : readGroups true (7 - front.length) mid = (back, embedded, rest))
    (hgs : front ++ List.replicate (8 - front.length - back.length) 0 ++ back = ip.groups) :
    readIpv6? cs = some (ip, rest) := by
  have hne : ¬ front.length = 8 := Nat.ne_of_lt hlt
  simp only [readIpv6?, hfront, if_neg hne, Bool.false_eq_true, if_false, readChar?, if_true,
    Option.bind_eq_bind, Option.bind_some, hback, hgs, ofGroups?_groups, Option.pure_def]

theorem readIpv6?_mapped {ip : Ipv6} {v4 : Ipv4} (h : ip.mapped? = some v4) (rest : Rest) :
    readIpv6? ("::ffff:".toList ++ v4.text ++ ']' :: rest) = some (ip, ']' :: rest) := by
  have htext : "::ffff:".toList ++ v4.text ++ ']' :: rest =
      ':' :: ':' :: (Nat.toDigits 16 (0xFFFF : UInt16).toNat ++
        ':' :: (v4.text ++ ']' :: rest)) := by
    rw [List.append_assoc]
    rfl
  have hback : readGroups true 7
      (Nat.toDigits 16 (0xFFFF : UInt16).toNat ++ ':' :: (v4.text ++ ']' :: rest)) =
        ([0xFFFF, wordOfBytes v4.a v4.b, wordOfBytes v4.c v4.d], true, ']' :: rest) := by
    rw [readGroups_group 0xFFFF rfl ⟨':', _, rfl, Or.inl rfl⟩,
      readGroups_ipv4 v4 (by omega) (stops_cons (by decide))]
  -- nothing in front of the gap, and behind it one group and the address
  rw [htext]
  apply readIpv6?_gap (readGroups_end (GroupsEnd.gap _)) (Nat.zero_lt_succ 7) hback
  rw [mapped?_groups h]
  rfl

theorem readIpv6?_text (ip : Ipv6) (rest : Rest) :
    readIpv6? (ip.text ++ ']' :: rest) = some (ip, ']' :: rest) := by
  cases hm : ip.mapped? with
  | some v4 =>
    have htext : ip.text = "::ffff:".toList ++ v4.text := by
      simp only [Ipv6.text, hm]
    rw [htext]
    exact readIpv6?_mapped hm rest
  | none =>
    have hsplit := longestZeros_split ip.groups
    have hlength := ip.length_groups
    cases hz : Ipv6.longestZeros ip.groups with
    | mk start size =>
      rw [hz] at hsplit
      by_cases h2 : 2 ≤ size
      · -- the run that was left out is as long as what the eight groups still lack
        have htext : ip.text = Ipv6.groupsText (ip.groups.take start) ++
            ':' :: ':' :: Ipv6.groupsText (ip.groups.drop (start + size)) := by
          simp only [Ipv6.text, hm, hz, if_pos h2]
        have hparts := congrArg List.length hsplit
        simp only [List.length_append, List.length_replicate] at hparts
        have hzeros : 8 - (ip.groups.take start).length -
            (ip.groups.drop (start + size)).length = size := by omega
        rw [htext, List.append_assoc, List.cons_append, List.cons_append]
        apply readIpv6?_gap (readGroups_text (by omega) (GroupsEnd.gap _)) (by omega)
          (readGroups_text (by omega) (GroupsEnd.bracket _))
        rw [hzeros, List.append_assoc]
        exact hsplit.symm
      · have htext : ip.text = Ipv6.groupsText ip.groups := by
          simp only [Ipv6.text, hm, hz, if_neg h2]
        have hread : readGroups true 8 (Ipv6.groupsText ip.groups ++ ']' :: rest) =
            (ip.groups, false, ']' :: rest) :=
          readGroups_text (Nat.le_of_eq hlength) (GroupsEnd.bracket rest)
        rw [htext]
        simp only [readIpv6?, hread, hlength, if_true, ofGroups?_groups, Option.map_some]

/-! ### Endpoints -/

theorem readEndpoint?_text (ip : Ip) (port : UInt16) :
    readEndpoint? (endpointText ip port) = some ((ip, port), []) := by
  have hport := readPort?_decimal port (stops_nil 10)
  rw [List.append_nil] at hport
  cases ip with
  | v4 ip =>
    have hcolon : Stops 10 (':' :: decimal port.toNat) := stops_cons (by decide)
    have hip := readIpv4?_text ip hcolon
    simp only [readEndpoint?, endpointText, hip, Option.bind_some, hport, Option.map_some]
  | v6 ip =>
    have hno : readIpv4? ('[' :: ip.text ++ ']' :: ':' :: decimal port.toNat) = none :=
      readIpv4?_of_stops (stops_cons (by decide))
    have hip := readIpv6?_text ip (':' :: decimal port.toNat)
    have hzone : ¬ (']' = '%') := by decide
    simp only [readEndpoint?, endpointText, hno, Option.bind_none]
    simp only [readChar?, List.cons_append, if_true, Option.bind_eq_bind, Option.bind_some, hip,
      skipZone, if_neg hzone, Option.bind_none, hport, Option.pure_def]

end SyscallBridge.AddressText

namespace SyscallBridge

/-- The text of an address reads back as that address. -/
theorem endpointOfText?_endpointText (ip : Ip) (port : UInt16) :
    endpointOfText? (String.ofList (endpointText ip port)) = some (ip, port) := by
  rw [endpointOfText?, String.toList_ofList, AddressText.readEndpoint?_text]
  rfl

theorem SockAddr.parse_netText (a : NetAddress) : SockAddr.parse a.text = .ok (.ofNet a) := by
  simp only [SockAddr.parse, NetAddress.text, endpointOfText?_endpointText]

end SyscallBridge
