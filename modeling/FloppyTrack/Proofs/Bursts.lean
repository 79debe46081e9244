import FloppyTrack.Proofs.Halves

set_option autoImplicit false

namespace FloppyTrack

-- Two runs of bits that differ, and only within sixteen in a row.
structure Burst (a b : List Bool) (start : Nat) : Prop where
  differ : a ≠ b
  within : ∀ i, a[i]? ≠ b[i]? → start ≤ i ∧ i < start + 16

theorem window_parts (bits : List Bool) (start : Nat) :
    bits.take start ++ ((bits.drop start).take 16 ++ bits.drop (start + 16)) = bits := by
  rw [← List.drop_drop, List.take_append_drop, List.take_append_drop]

namespace Burst

variable {a b : List Bool} {start : Nat}

theorem aside (burst : Burst a b start) {i : Nat} (outside : i < start ∨ start + 16 ≤ i) :
    a[i]? = b[i]? := by
  by_contra other
  have inside := burst.within i other
  omega

theorem front (burst : Burst a b start) : a.take start = b.take start := by
  apply List.ext_getElem?
  intro i
  rw [List.getElem?_take, List.getElem?_take]
  split
  · exact burst.aside (.inl ‹_›)
  · rfl

theorem back (burst : Burst a b start) : a.drop (start + 16) = b.drop (start + 16) := by
  apply List.ext_getElem?
  intro i
  rw [List.getElem?_drop, List.getElem?_drop]
  exact burst.aside (.inr (Nat.le_add_right _ _))

theorem of_parts (differ : a ≠ b) (front : a.take start = b.take start)
    (back : a.drop (start + 16) = b.drop (start + 16)) : Burst a b start := by
  refine ⟨differ, fun i other => ?_⟩
  constructor
  · by_contra early
    apply other
    rw [← List.getElem?_take_of_lt (Nat.lt_of_not_le early), front,
      List.getElem?_take_of_lt (Nat.lt_of_not_le early)]
  · by_contra late
    obtain ⟨k, rfl⟩ := Nat.exists_eq_add_of_le (Nat.le_of_not_lt late)
    apply other
    rw [← List.getElem?_drop, back, List.getElem?_drop]

end Burst

namespace Crc16

theorem register_of_bits (a b : UInt16)
    (same : ∀ i, i < 16 → a.toNat.testBit i = b.toNat.testBit i) : a = b := by
  rw [← UInt16.toNat_inj]
  apply Nat.eq_of_testBit_eq
  intro i
  by_cases inside : i < 16
  · exact same i inside
  · have high : 2 ^ 16 ≤ 2 ^ i := Nat.pow_le_pow_right (by decide) (Nat.le_of_not_lt inside)
    rw [Nat.testBit_lt_two_pow (Nat.lt_of_lt_of_le a.toNat_lt high),
      Nat.testBit_lt_two_pow (Nat.lt_of_lt_of_le b.toNat_lt high)]

theorem top_bit (i : Nat) (inside : i < 16) :
    (0x8000 : UInt16).toNat.testBit i = decide (i = 15) := by
  have table : ∀ i, i < 16 → (0x8000 : UInt16).toNat.testBit i = decide (i = 15) := by decide
  exact table i inside

theorem top_bit_clear (crc : UInt16) : crc &&& 0x8000 = 0 ↔ crc.toNat.testBit 15 = false := by
  constructor
  · intro clear
    have bit : (crc &&& 0x8000).toNat.testBit 15 = (0 : UInt16).toNat.testBit 15 := by rw [clear]
    rw [UInt16.toNat_and, Nat.testBit_and, top_bit 15 (by decide), decide_eq_true rfl,
      Bool.and_true] at bit
    exact bit
  · intro clear
    apply register_of_bits
    intro i inside
    rw [UInt16.toNat_and, Nat.testBit_and, top_bit i inside]
    by_cases top : i = 15
    · simp [top, clear]
    · simp [top]

theorem shift_bit (crc : UInt16) (i : Nat) (inside : i < 16) :
    (shift crc).toNat.testBit i = ((decide (0 < i) && crc.toNat.testBit (i - 1)) ^^
      (crc.toNat.testBit 15 && polynomial.toNat.testBit i)) := by
  have moved : (crc <<< 1).toNat.testBit i = (decide (0 < i) && crc.toNat.testBit (i - 1)) := by
    rw [UInt16.toNat_shiftLeft, Nat.testBit_mod_two_pow, show (1 : UInt16).toNat % 16 = 1 from rfl,
      Nat.testBit_shiftLeft, decide_eq_true inside, Bool.true_and]
    rfl
  rw [shift, UInt16.toNat_xor, Nat.testBit_xor, moved]
  split <;> rename_i top <;> rw [top_bit_clear] at top
  · rw [top]
    simp
  · rw [Bool.not_eq_false] at top
    rw [top, Bool.true_and]

-- The lowest bit of the polynomial tells whether it was added.
theorem shift_injective (a b : UInt16) (same : shift a = shift b) : a = b := by
  have bit : ∀ i, i < 16 → (shift a).toNat.testBit i = (shift b).toNat.testBit i :=
    fun i _ => by rw [same]
  have lowest : polynomial.toNat.testBit 0 = true := by decide
  have top := bit 0 (by decide)
  rw [shift_bit _ 0 (by decide), shift_bit _ 0 (by decide), lowest] at top
  simp only [Nat.lt_irrefl, decide_false, Bool.false_and, Bool.false_xor, Bool.and_true] at top
  apply register_of_bits
  intro i inside
  by_cases last : i = 15
  · rw [last, top]
  · have next := bit (i + 1) (by omega)
    rw [shift_bit _ _ (by omega), shift_bit _ _ (by omega), top] at next
    simpa using next

theorem repeat_start (n : Nat) (crc : UInt16) :
    Nat.repeat shift (n + 1) crc = Nat.repeat shift n (shift crc) := by
  induction n with
  | zero => rfl
  | succ n ih => exact congrArg shift ih

theorem repeat_injective (n : Nat) (a b : UInt16)
    (same : Nat.repeat shift n a = Nat.repeat shift n b) : a = b := by
  induction n with
  | zero => exact same
  | succ n ih => exact ih (shift_injective _ _ same)

def lead : List Bool → UInt16
  | [] => 0
  | bit :: bits => (if bit then 0x8000 else 0 : UInt16) ||| lead bits >>> 1

def feed (crc : UInt16) (bit : Bool) : UInt16 := shift (crc ^^^ lead [bit])

theorem lead_bit (bits : List Bool) (i : Nat) (inside : i < 16) :
    (lead bits).toNat.testBit i = (bits[15 - i]?).getD false := by
  induction bits generalizing i with
  | nil => simp [lead]
  | cons bit bits ih =>
    have moved : (lead bits >>> 1).toNat.testBit i = (lead bits).toNat.testBit (i + 1) := by
      rw [UInt16.toNat_shiftRight, show (1 : UInt16).toNat % 16 = 1 from rfl,
        Nat.testBit_shiftRight, Nat.add_comm]
    have first : (if bit then (0x8000 : UInt16) else 0).toNat.testBit i = (bit && decide (i = 15)) := by
      cases bit
      · simp
      · simpa using top_bit i inside
    rw [lead, UInt16.toNat_or, Nat.testBit_or, moved, first]
    by_cases top : i = 15
    · have past : (lead bits).toNat.testBit 16 = false := Nat.testBit_lt_two_pow (lead bits).toNat_lt
      simp [top, past]
    · have place : 15 - i = 15 - (i + 1) + 1 := by omega
      rw [ih (i + 1) (by omega), place]
      simp [top]

theorem lead_injective (a b : List Bool) (length : a.length = b.length) (few : a.length ≤ 16)
    (same : lead a = lead b) : a = b := by
  apply List.ext_getElem length
  intro i low high
  have bit := congrArg (fun register => register.toNat.testBit (15 - i)) same
  have place : 15 - (15 - i) = i := by omega
  simpa [lead_bit, place, low, high, show 15 - i < 16 by omega] using bit

-- The register takes the first bit in, and the others move up.
theorem shift_lead (crc : UInt16) (bit : Bool) (bits : List Bool) (few : bits.length < 16) :
    shift (crc ^^^ lead (bit :: bits)) = feed crc bit ^^^ lead bits := by
  apply register_of_bits
  intro i inside
  rw [feed, UInt16.toNat_xor, Nat.testBit_xor, shift_bit _ _ inside, shift_bit _ _ inside]
  simp only [UInt16.toNat_xor, Nat.testBit_xor]
  rw [lead_bit bits i inside, lead_bit _ 15 (by decide), lead_bit _ 15 (by decide)]
  rcases Nat.eq_zero_or_pos i with rfl | inside
  · have past : bits[15]? = none := List.getElem?_eq_none (by omega)
    simp [past]
  · have place : 15 - (i - 1) = 15 - i + 1 := by omega
    rw [lead_bit _ (i - 1) (by omega), lead_bit _ (i - 1) (by omega), place,
      List.getElem?_cons_succ, List.getElem?_cons_succ, List.getElem?_nil, Option.getD_none,
      decide_eq_true inside, Bool.true_and, Bool.true_and, Bool.xor_false]
    exact Bool.xor_right_comm _ _ _

theorem fed_bits (bits : List Bool) (crc : UInt16) (few : bits.length ≤ 16) :
    bits.foldl feed crc = Nat.repeat shift bits.length (crc ^^^ lead bits) := by
  induction bits generalizing crc with
  | nil => simp [lead, Nat.repeat]
  | cons bit bits ih =>
    rw [List.foldl_cons, ih _ (Nat.le_of_lt few), List.length_cons, repeat_start,
      shift_lead crc bit bits few]

theorem feed_injective (bits : List Bool) (a b : UInt16)
    (same : bits.foldl feed a = bits.foldl feed b) : a = b := by
  induction bits generalizing a b with
  | nil => exact same
  | cons bit bits ih =>
    exact (UInt16.xor_left_inj _).mp (shift_injective _ _ (ih _ _ same))

theorem fed_apart (crc : UInt16) (a b : List Bool) (length : a.length = b.length)
    (few : a.length ≤ 16) (same : a.foldl feed crc = b.foldl feed crc) : a = b := by
  rw [fed_bits a crc few, fed_bits b crc (length ▸ few), length] at same
  exact lead_injective a b length few ((UInt16.xor_right_inj _).mp (repeat_injective _ _ _ same))

theorem burst_fed (crc : UInt16) {a b : List Bool} {start : Nat} (length : a.length = b.length)
    (burst : Burst a b start) : a.foldl feed crc ≠ b.foldl feed crc := by
  intro same
  -- What comes before leaves the same register, and what comes behind keeps two of them apart.
  rw [← window_parts a start, ← window_parts b start, List.foldl_append, List.foldl_append,
    List.foldl_append, List.foldl_append, burst.front, burst.back] at same
  have middle := fed_apart _ _ _ (by simp [length]) (List.length_take_le _ _)
    (feed_injective _ _ _ same)
  apply burst.differ
  rw [← window_parts a start, ← window_parts b start, burst.front, burst.back, middle]

theorem byte_fed (crc : UInt16) (b : UInt8) : byte crc b = (Bits.ofNat 8 b.toNat).foldl feed crc := by
  have aligned : b.toUInt16 <<< 8 = lead (Bits.ofNat 8 b.toNat) := by
    apply register_of_bits
    intro i inside
    rw [lead_bit _ i inside, UInt16.toNat_shiftLeft, Nat.testBit_mod_two_pow,
      show (8 : UInt16).toNat % 16 = 8 from rfl, Nat.testBit_shiftLeft, UInt8.toNat_toUInt16,
      decide_eq_true inside, Bool.true_and]
    by_cases low : i < 8
    · rw [List.getElem?_eq_none (by rw [Bits.of_nat_length]; omega), decide_eq_false (by omega),
        Bool.false_and]
      rfl
    · have place : 8 - 1 - (15 - i) = i - 8 := by omega
      rw [List.getElem?_eq_getElem (by rw [Bits.of_nat_length]; omega), Bits.of_nat_get, place,
        decide_eq_true (by omega), Bool.true_and]
      rfl
  rw [byte, aligned, fed_bits _ crc (by simp), Bits.of_nat_length]

theorem update_fed (data : List UInt8) (crc : UInt16) :
    update crc data = (byteBits data).foldl feed crc := by
  induction data generalizing crc with
  | nil => rfl
  | cons b data ih =>
    rw [byte_bits_cons, List.foldl_append, ← byte_fed]
    exact ih (byte crc b)

end Crc16

end FloppyTrack
