import FloppyTrack.Proofs.Words

set_option autoImplicit false

namespace FloppyTrack

-- The sum of the first groups of sixteen bits.
def groupSum : Nat → List Bool → Nat
  | 0, _ => 0
  | groups + 1, bits => Bits.toNat (bits.take 16) ^^^ groupSum groups (bits.drop 16)

theorem group_sum_append (g h : Nat) (front back : List Bool) (whole : front.length = 16 * g) :
    groupSum (g + h) (front ++ back) = groupSum g front ^^^ groupSum h back := by
  induction g generalizing front with
  | zero =>
    rw [List.eq_nil_of_length_eq_zero whole]
    simp [groupSum]
  | succ g ih =>
    have rest := ih (front.drop 16) (by simp; omega)
    rw [Nat.add_right_comm, groupSum, groupSum, List.take_append_of_le_length (by omega),
      List.drop_append_of_le_length (by omega), rest, Nat.xor_assoc]

theorem group_sum_one (bits : List Bool) (one : bits.length = 16) :
    groupSum 1 bits = Bits.toNat bits := by
  simp [groupSum, one, List.take_of_length_le]

theorem xor_fold (words : List UInt32) (start : UInt32) :
    words.foldl (· ^^^ ·) start = start ^^^ words.foldl (· ^^^ ·) 0 := by
  induction words generalizing start with
  | nil => simp
  | cons word words ih =>
    rw [List.foldl_cons, List.foldl_cons, ih, ih (0 ^^^ word)]
    simp [UInt32.xor_assoc]

theorem checksum_masked (data : List UInt8) : checksum data &&& oddMask = checksum data := by
  rw [checksum, UInt32.and_assoc, UInt32.and_self]

theorem checksum_half (data : List UInt8) :
    oddHalf (checksum data) =
      evenHalf ((longs data).foldl (· ^^^ ·) 0) ^^^ oddHalf ((longs data).foldl (· ^^^ ·) 0) := by
  have masked : oddHalf (checksum data) =
      oddHalf ((longs data).foldl (· ^^^ ·) 0 ^^^ (longs data).foldl (· ^^^ ·) 0 >>> 1) :=
    congrArg Bits.toNat (masked_odd_bits _)
  rw [masked, odd_half_xor, ← even_half_shift, Nat.xor_comm]

theorem half_sums (groups : Nat) (data : List UInt8) (whole : data.length = 4 * groups) :
    groupSum groups (Encoding.evens data) = evenHalf ((longs data).foldl (· ^^^ ·) 0) ∧
      groupSum groups (Encoding.odds data) = oddHalf ((longs data).foldl (· ^^^ ·) 0) := by
  induction groups generalizing data with
  | zero => rw [List.eq_nil_of_length_eq_zero whole]; exact ⟨by decide, by decide⟩
  | succ groups ih =>
    match data, whole with
    | a :: b :: c :: d :: rest, whole =>
      have tail := ih rest (by simp at whole; omega)
      have halves := Encoding.long_halves a b c d
      have even : Encoding.evens (a :: b :: c :: d :: rest) =
          Encoding.evens [a, b, c, d] ++ Encoding.evens rest := rfl
      have odd : Encoding.odds (a :: b :: c :: d :: rest) =
          Encoding.odds [a, b, c, d] ++ Encoding.odds rest := rfl
      rw [longs, List.foldl_cons, xor_fold, even_half_xor, odd_half_xor, even, odd, Nat.add_comm groups 1,
        group_sum_append 1 groups _ _ rfl, group_sum_append 1 groups _ _ rfl, group_sum_one _ rfl,
        group_sum_one _ rfl, tail.1, tail.2, halves.1, halves.2]
      simp [evenHalf, oddHalf, bigEndian]

theorem split_sum (groups : Nat) (data : List UInt8) (whole : data.length = 4 * groups) :
    groupSum (2 * groups) (Encoding.splitBits data) = oddHalf (checksum data) := by
  have sums := half_sums groups data whole
  rw [Nat.two_mul, Encoding.split_bits_halves, group_sum_append groups groups _ _ (by simp; omega),
    sums.1, sums.2, checksum_half]

theorem longs_append (groups : Nat) (front back : List UInt8) (whole : front.length = 4 * groups) :
    longs (front ++ back) = longs front ++ longs back := by
  induction groups generalizing front with
  | zero => rw [List.eq_nil_of_length_eq_zero whole]; rfl
  | succ groups ih =>
    match front, whole with
    | a :: b :: c :: d :: rest, whole =>
      have tail := ih rest (by simp at whole; omega)
      simp only [List.cons_append, longs, tail]

theorem checksum_append (groups : Nat) (front back : List UInt8) (whole : front.length = 4 * groups) :
    oddHalf (checksum (front ++ back)) = oddHalf (checksum front) ^^^ oddHalf (checksum back) := by
  rw [checksum_half, checksum_half, checksum_half, longs_append groups front back whole,
    List.foldl_append, xor_fold, even_half_xor, odd_half_xor]
  ac_rfl

theorem long_sum (groups : Nat) (data : List UInt8) (whole : data.length = 4 * groups) :
    groupSum (2 * groups) (Encoding.longBits data) = oddHalf (checksum data) := by
  induction groups generalizing data with
  | zero => rw [List.eq_nil_of_length_eq_zero whole]; decide
  | succ groups ih =>
    have four : (data.take 4).length = 4 := by simp; omega
    have tail := ih (data.drop 4) (by simp; omega)
    have head := split_sum 1 (data.take 4) four
    have joined := checksum_append 1 (data.take 4) (data.drop 4) four
    rw [List.take_append_drop] at joined
    have more : 2 * (groups + 1) = 2 * 1 + 2 * groups := by omega
    rw [← List.take_append_drop 4 data, Encoding.long_bits_four _ _ four, List.take_append_drop, joined,
      more, group_sum_append (2 * 1) (2 * groups) _ _ (by simp [four]), tail, head]

end FloppyTrack
