import FloppyTrack.Bits
import Mathlib.Algebra.Group.Nat.Defs

set_option autoImplicit false

namespace FloppyTrack.Bits

theorem foldl_eq (bits : List Bool) (value : Nat) :
    bits.foldl (fun value bit => 2 * value + bit.toNat) value =
      value * 2 ^ bits.length + toNat bits := by
  induction bits generalizing value with
  | nil => simp [toNat]
  | cons bit bits ih =>
    simp only [toNat, List.foldl_cons, List.length_cons, Nat.pow_succ]
    rw [ih, ih (2 * 0 + bit.toNat)]
    grind

@[simp] theorem to_nat_nil : toNat [] = 0 := rfl

theorem to_nat_cons (bit : Bool) (bits : List Bool) :
    toNat (bit :: bits) = bit.toNat * 2 ^ bits.length + toNat bits := by
  conv => lhs; rw [toNat, List.foldl_cons, foldl_eq]
  simp

theorem to_nat_lt (bits : List Bool) : toNat bits < 2 ^ bits.length := by
  induction bits with
  | nil => simp
  | cons bit bits ih =>
    rw [to_nat_cons, List.length_cons, Nat.pow_succ]
    cases bit <;> simp <;> omega

theorem to_nat_of_nat (n v : Nat) : toNat (ofNat n v) = v % 2 ^ n := by
  induction n with
  | zero => simp [ofNat, Nat.mod_one]
  | succ n ih =>
    rw [ofNat, to_nat_cons, of_nat_length, ih, Nat.mod_pow_succ, Nat.testBit_eq_decide_div_mod_eq]
    have half := Nat.mod_two_eq_zero_or_one (v / 2 ^ n)
    rcases half with h | h <;> simp [h, Nat.add_comm]

theorem to_nat_test_bit (bits : List Bool) (i : Nat) :
    (toNat bits).testBit i = (bits.reverse[i]?).getD false := by
  induction bits with
  | nil => simp
  | cons bit bits ih =>
    have below := to_nat_lt bits
    rw [to_nat_cons, List.reverse_cons, Nat.mul_comm, Nat.testBit_two_pow_mul_add _ below]
    by_cases h : i < bits.length
    · rw [if_pos h, ih, List.getElem?_append_left (by simpa using h)]
    · rw [if_neg h, List.getElem?_append_right (by simpa using Nat.le_of_not_lt h)]
      simp only [List.length_reverse]
      by_cases same : i = bits.length
      · subst same
        cases bit <;> simp
      · obtain ⟨k, past⟩ : ∃ k, i - bits.length = k + 1 := ⟨i - bits.length - 1, by omega⟩
        cases bit <;> simp [past, Nat.testBit_succ]

theorem of_nat_to_nat (bits : List Bool) : ofNat bits.length (toNat bits) = bits := by
  suffices general : ∀ (front : List Bool), ofNat bits.length (toNat (front ++ bits)) = bits by
    simpa using general []
  induction bits with
  | nil => intro front; rfl
  | cons bit bits ih =>
    intro front
    have tail := ih (front ++ [bit])
    rw [List.append_assoc, List.singleton_append] at tail
    rw [List.length_cons, ofNat, tail, to_nat_test_bit]
    simp

theorem of_nat_get (n v i : Nat) (within : i < (ofNat n v).length) :
    (ofNat n v)[i] = v.testBit (n - 1 - i) := by
  induction n generalizing i with
  | zero => simp [ofNat] at within
  | succ n ih =>
    cases i with
    | zero => rfl
    | succ i => simp only [ofNat, List.getElem_cons_succ, ih]; congr 1; omega

theorem of_nat_eq_iff (n v w : Nat) : ofNat n v = ofNat n w ↔ v % 2 ^ n = w % 2 ^ n := by
  constructor
  · intro same
    simpa only [to_nat_of_nat] using congrArg toNat same
  · intro same
    apply List.ext_getElem
    · simp
    · intro i low high
      have within : i < n := by simpa using low
      have bit := congrArg (fun rest => rest.testBit (n - 1 - i)) same
      simpa [Nat.testBit_mod_two_pow, show n - 1 - i < n by omega, of_nat_get] using bit

theorem of_nat_append (m n v : Nat) :
    ofNat (m + n) v = ofNat m (v >>> n) ++ ofNat n v := by
  induction m with
  | zero => simp [ofNat]
  | succ m ih =>
    rw [Nat.add_right_comm, ofNat, ofNat, ih, Nat.testBit_shiftRight, Nat.add_comm n m]
    rfl

theorem to_nat_xor (a b : List Bool) (same : a.length = b.length) :
    toNat (List.zipWith xor a b) = toNat a ^^^ toNat b := by
  apply Nat.eq_of_testBit_eq
  intro i
  rw [Nat.testBit_xor, to_nat_test_bit, to_nat_test_bit, to_nat_test_bit,
    List.reverse_zipWith same, List.getElem?_zipWith]
  by_cases inside : i < a.length
  · simp [inside, same ▸ inside]
  · simp [inside, same ▸ inside]

theorem to_nat_injective (a b : List Bool) (same : a.length = b.length)
    (value : toNat a = toNat b) : a = b := by
  rw [← of_nat_to_nat a, ← of_nat_to_nat b, same, value]

end FloppyTrack.Bits
