import SyscallBridge.Address.Network

/-!
# Addresses as bytes

The port and the octets of an address as the host takes them. Six bytes and eighteen are the form
of one address each, and no other bytes are.
-/

namespace SyscallBridge

/-! ### Words -/

theorem length_wordBytes (w : UInt16) : (wordBytes w).length = 2 := rfl

theorem wordBytes_wordOfBytes (high low : UInt8) :
    wordBytes (wordOfBytes high low) = [high, low] := by
  have hhigh : high.toNat < 256 := high.toNat_lt
  have hlow : low.toNat < 256 := low.toNat_lt
  have hword : (wordOfBytes high low).toNat = high.toNat * 256 + low.toNat := by
    simp only [wordOfBytes, UInt16.toNat_or, UInt16.toNat_shiftLeft, UInt8.toNat_toUInt16]
    change high.toNat <<< 8 % 2 ^ 16 ||| low.toNat = _
    rw [Nat.mod_eq_of_lt (by rw [Nat.shiftLeft_eq]; omega),
      ← Nat.shiftLeft_add_eq_or_of_lt (by omega : low.toNat < 2 ^ 8), Nat.shiftLeft_eq]
  have hfirst : (wordOfBytes high low >>> 8).toUInt8 = high := by
    apply UInt8.toNat_inj.1
    rw [UInt16.toNat_toUInt8, UInt16.toNat_shiftRight, hword]
    change (high.toNat * 256 + low.toNat) >>> 8 % 2 ^ 8 = high.toNat
    rw [Nat.shiftRight_eq_div_pow]
    omega
  have hsecond : (wordOfBytes high low).toUInt8 = low := by
    apply UInt8.toNat_inj.1
    rw [UInt16.toNat_toUInt8, hword]
    omega
  rw [wordBytes, hfirst, hsecond]

namespace NetAddress

theorem length_flatMap_wordBytes (groups : List UInt16) :
    (groups.flatMap wordBytes).length = 2 * groups.length := by
  induction groups with
  | nil => rfl
  | cons w groups ih =>
    rw [List.flatMap_cons, List.length_append, ih, length_wordBytes, List.length_cons]
    omega

theorem groupsOfBytes_flatMap (groups : List UInt16) :
    groupsOfBytes (groups.flatMap wordBytes) = groups := by
  induction groups with
  | nil => rfl
  | cons w groups ih =>
    rw [List.flatMap_cons, wordBytes]
    change wordOfBytes _ _ :: groupsOfBytes (groups.flatMap wordBytes) = _
    rw [wordOfBytes_wordBytes, ih]

/-- Bytes are those of their words if they come in pairs. -/
theorem flatMap_groupsOfBytes {bytes : Bytes} (heven : bytes.length % 2 = 0) :
    (groupsOfBytes bytes).flatMap wordBytes = bytes := by
  induction bytes using groupsOfBytes.induct with
  | case1 high low rest ih =>
    have hrest : rest.length % 2 = 0 := by
      simp only [List.length_cons] at heven
      omega
    rw [groupsOfBytes, List.flatMap_cons, wordBytes_wordOfBytes, ih hrest]
    rfl
  | case2 bytes hpair =>
    cases bytes with
    | nil => rfl
    | cons high bytes =>
      cases bytes with
      | nil => cases heven
      | cons low rest => exact absurd rfl (hpair high low rest)

/-! ### Addresses -/

theorem length_toBytes (a : NetAddress) : a.toBytes.length = if a.isV6 then 18 else 6 := by
  obtain ⟨ip, port⟩ := a
  cases ip with
  | v4 ip => rfl
  | v6 ip =>
    have hbytes : ip.bytes.length = 16 := by
      rw [Ipv6.bytes, length_flatMap_wordBytes, ip.length_groups]
    rw [toBytes, List.length_append, length_wordBytes, Ip.bytes, hbytes]
    rfl

/-- Sixteen bytes behind the port are the groups of an address. -/
theorem ofBytes_of_groups (high low : UInt8) {rest : Bytes} (hrest : rest.length = 16)
    {ip : Ipv6} (hip : ip.groups = groupsOfBytes rest) :
    ofBytes (high :: low :: rest) = .ok ⟨.v6 ip, wordOfBytes high low⟩ := by
  have hgroups : Ipv6.ofGroups? (groupsOfBytes rest) = some ip := by
    rw [← hip, Ipv6.ofGroups?, dif_pos ip.length_groups]
  unfold ofBytes
  split
  · next heq =>
    cases heq
    cases hrest
  · next heq =>
    cases heq
    rw [if_pos hrest, hgroups]
  · next hno => exact absurd rfl (hno high low rest)

theorem ofBytes_toBytes (a : NetAddress) : ofBytes a.toBytes = .ok a := by
  obtain ⟨ip, port⟩ := a
  cases ip with
  | v4 ip =>
    change Except.ok (NetAddress.mk (.v4 ip) (wordOfBytes _ _)) = _
    rw [wordOfBytes_wordBytes]
  | v6 ip =>
    have hrest : (ip.groups.flatMap wordBytes).length = 16 := by
      rw [length_flatMap_wordBytes, ip.length_groups]
    have hip : ip.groups = groupsOfBytes (ip.groups.flatMap wordBytes) :=
      (groupsOfBytes_flatMap ip.groups).symm
    have hread := ofBytes_of_groups (port >>> 8).toUInt8 port.toUInt8 hrest hip
    rw [wordOfBytes_wordBytes] at hread
    exact hread

/-- Bytes of a length that an address has are the form of one. -/
theorem exists_toBytes_eq {bytes : Bytes} (hlength : bytes.length = 6 ∨ bytes.length = 18) :
    ∃ a : NetAddress, a.toBytes = bytes := by
  rcases hlength with hlength | hlength
  · match bytes, hlength with
    | [high, low, a, b, c, d], _ =>
      refine ⟨⟨.v4 ⟨a, b, c, d⟩, wordOfBytes high low⟩, ?_⟩
      rw [toBytes, wordBytes_wordOfBytes]
      rfl
  · match bytes, hlength with
    | high :: low :: rest, hlength =>
      have heven : rest.length % 2 = 0 := by
        simp only [List.length_cons] at hlength
        omega
      have hbytes := flatMap_groupsOfBytes heven
      have hgroups : (groupsOfBytes rest).length = 8 := by
        have hwords := length_flatMap_wordBytes (groupsOfBytes rest)
        rw [hbytes] at hwords
        simp only [List.length_cons] at hlength
        omega
      refine ⟨⟨.v6 ⟨groupsOfBytes rest, hgroups⟩, wordOfBytes high low⟩, ?_⟩
      rw [toBytes, wordBytes_wordOfBytes, Ip.bytes, Ipv6.bytes, hbytes]
      rfl

/-- Bytes that are the form of no address are refused. -/
theorem ofBytes_eq_error {bytes : Bytes} (hlength : bytes.length ≠ 6 ∧ bytes.length ≠ 18) :
    ofBytes bytes = .error .addressInvalid := by
  unfold ofBytes
  split
  · exact absurd rfl hlength.1
  · next high low rest _ =>
    refine if_neg fun hrest => hlength.2 ?_
    simp only [List.length_cons, hrest]
  · rfl

/-- The form in bytes and the address say the same. -/
theorem ofBytes_eq_ok_iff {bytes : Bytes} {a : NetAddress} :
    ofBytes bytes = .ok a ↔ a.toBytes = bytes := by
  constructor
  · intro hok
    by_cases hlength : bytes.length = 6 ∨ bytes.length = 18
    · obtain ⟨b, rfl⟩ := exists_toBytes_eq hlength
      rw [ofBytes_toBytes] at hok
      rw [Except.ok.inj hok]
    · rw [ofBytes_eq_error (not_or.1 hlength)] at hok
      cases hok
  · rintro rfl
    exact ofBytes_toBytes a

end NetAddress

end SyscallBridge
