import FloppyTrack.Proofs.Halves

set_option autoImplicit false

namespace FloppyTrack

-- The byte that starts `shift` bits into two others.
def splice (shift : Nat) (a c : UInt8) : UInt8 :=
  UInt8.ofNat ((a.toNat * 256 + c.toNat) >>> (8 - shift))

theorem splice_bits {shift : Nat} (small : shift < 8) (a c : UInt8) :
    ((Bits.ofNat 8 a.toNat ++ Bits.ofNat 8 c.toNat).drop shift).take 8 =
      Bits.ofNat 8 (splice shift a c).toNat := by
  have cut : 16 = shift + (8 + (8 - shift)) := by omega
  have byte : Bits.ofNat 8 (splice shift a c).toNat =
      Bits.ofNat 8 ((a.toNat * 256 + c.toNat) >>> (8 - shift)) := by
    rw [Bits.of_nat_eq_iff, splice, UInt8.toNat_ofNat', Nat.mod_mod]
  rw [pair_bits, byte, cut, Bits.of_nat_append, List.drop_left' (Bits.of_nat_length _ _),
    Bits.of_nat_append, List.take_left' (Bits.of_nat_length _ _)]

theorem byte_bits_window {data : List UInt8} {q shift : Nat} (small : shift < 8)
    (within : q + 1 < data.length) :
    ((byteBits data).drop (8 * q + shift)).take 8 =
      Bits.ofNat 8 (splice shift (data.getD q 0) (data.getD (q + 1) 0)).toNat := by
  have here : data.getD q 0 = data[q] := by
    rw [List.getD_eq_getElem?_getD, List.getElem?_eq_getElem, Option.getD_some]
  have next : data.getD (q + 1) 0 = data[q + 1] := by
    rw [List.getD_eq_getElem?_getD, List.getElem?_eq_getElem within, Option.getD_some]
  have parts : data = data.take q ++ (data.getD q 0 :: data.getD (q + 1) 0 :: data.drop (q + 2)) := by
    rw [here, next, List.getElem_cons_drop, List.getElem_cons_drop, List.take_append_drop]
  have size : (byteBits (data.take q)).length = 8 * q := by
    rw [byte_bits_length, List.length_take_of_le (by omega)]
  nth_rewrite 1 [parts]
  rw [byte_bits_append, byte_bits_cons, byte_bits_cons, ← List.append_assoc (Bits.ofNat _ _),
    List.drop_append, List.drop_eq_nil_of_le (by omega), List.nil_append, size, Nat.add_sub_cancel_left,
    List.drop_append_of_le_length (by simp; omega), List.take_append_of_le_length (by simp; omega),
    splice_bits small]

theorem byte_forall {p : UInt8 → Prop} (all : ∀ n, n < 256 → p (UInt8.ofNat n)) (byte : UInt8) :
    p byte := by
  have one := all byte.toNat byte.toNat_lt
  rwa [UInt8.ofNat_toNat] at one

section
variable {shift : Nat}

theorem splice_none (a c : UInt8) : splice 0 a c = a := by
  have unturned : 0 < 8 := by decide
  have whole := splice_bits unturned a c
  exact byte_of_bits _ _ (by rw [← whole]; simp)

theorem splice_zeros (small : shift < 8) : splice shift 0 0 = 0 := by
  decide +revert

theorem splice_to_mark (small : shift < 8) : splice shift 0 0xae ≠ 0xae := by
  decide +revert

theorem splice_of_mark (small : shift < 8) (byte : UInt8) (shows : splice shift 0xae byte = 0xae) :
    shift = 0 ∨ shift = 6 ∧ byte >>> 2 = 0x2e := by
  refine byte_forall (p := fun byte => ∀ shift, shift < 8 → splice shift 0xae byte = 0xae →
    shift = 0 ∨ shift = 6 ∧ byte >>> 2 = 0x2e) ?_ byte shift small shows
  decide +kernel

theorem fill_ends (small : shift < 8) (byte : UInt8) (shows : splice shift byte 0 = 0xae) :
    shift = 0 ∨ shift = 1 := by
  refine byte_forall (p := fun byte => ∀ shift, shift < 8 → splice shift byte 0 = 0xae →
    shift = 0 ∨ shift = 1) ?_ byte shift small shows
  decide +kernel

theorem fill_breaks (small : shift < 8) (byte : UInt8) (shows : splice shift byte byte = 0xae) :
    splice shift byte 0 ≠ 0 := by
  refine byte_forall (p := fun byte => ∀ shift, shift < 8 → splice shift byte byte = 0xae →
    splice shift byte 0 ≠ 0) ?_ byte shift small shows
  decide +kernel

theorem turned_once {other : Nat} (small : shift < 8) (less : other < 8) (byte : UInt8)
    (shows : splice shift byte byte = 0xae) (also : splice other byte byte = 0xae) : other = shift := by
  refine byte_forall (p := fun byte => ∀ shift, shift < 8 → splice shift byte byte = 0xae →
    ∀ other, other < 8 → splice other byte byte = 0xae → other = shift) ?_ byte shift small shows
      other less also
  decide +kernel

theorem completes_turned (small : shift < 8) (byte : UInt8) (shows : splice shift byte byte = 0xae)
    (completes : byte >>> 2 = 0x2e) : splice 6 byte byte = 0xae := by
  refine byte_forall (p := fun byte => ∀ shift, shift < 8 → splice shift byte byte = 0xae →
    byte >>> 2 = 0x2e → splice 6 byte byte = 0xae) ?_ byte shift small shows completes
  decide +kernel

end

end FloppyTrack
