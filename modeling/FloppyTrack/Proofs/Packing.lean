import FloppyTrack.Proofs.Halves
import FloppyTrack.Proofs.Placement

set_option autoImplicit false

namespace FloppyTrack

theorem byte_bits_cell (data : List UInt8) (i : Nat) :
    ((byteBits data)[i]?).getD false = ((data[i / 8]?).getD 0).toNat.testBit (7 - i % 8) := by
  induction data generalizing i with
  | nil => simp [byteBits]
  | cons byte data ih =>
    rw [byte_bits_cons]
    by_cases first : i < 8
    · have bit := Bits.of_nat_get 8 byte.toNat i (by simpa using first)
      rw [List.getElem?_append_left (by simpa using first),
        List.getElem?_eq_getElem (by simpa using first), Option.getD_some, bit,
        Nat.div_eq_of_lt first, Nat.mod_eq_of_lt first]
      rfl
    · obtain ⟨k, rfl⟩ : ∃ k, i = k + 8 := ⟨i - 8, by omega⟩
      rw [List.getElem?_append_right (by simp), Bits.of_nat_length, Nat.add_sub_cancel, ih,
        Nat.add_div_right k (by decide), Nat.add_mod_right, List.getElem?_cons_succ]

namespace Revolution

-- Nothing else makes a revolution.
inductive Built : Revolution → Prop
  | empty : Built empty
  | bytes {bytes : Array UInt8} {length : Nat} {r : Revolution}
      (held : ofBytes? bytes length = some r) : Built r
  | bits (bits : List Bool) : Built (ofBits bits)
  | push {r : Revolution} (built : Built r) (bit : Bool) : Built (r.push bit)

@[simp] theorem to_list_length (r : Revolution) : r.toList.length = r.length := by
  simp [toList]

theorem bit_at_bytes (r : Revolution) (i : Nat) :
    r.bitAt i = ((byteBits r.bytes.toList)[i]?).getD false := by
  rw [byte_bits_cell, bitAt, Array.getElem?_toList, Array.getD_eq_getD_getElem?]

theorem to_list_bit (r : Revolution) {i : Nat} (within : i < r.length) :
    r.toList[i]? = some (r.bitAt i) := by
  rw [toList, List.getElem?_map, List.getElem?_range within, Option.map_some, cell_bit r i within]

theorem of_bits_to_list (bits : List Bool) : (ofBits bits).toList = bits := by
  apply List.ext_getElem
  · simp
  · intro i low high
    simp only [toList, List.getElem_map, List.getElem_range]
    rw [of_bits_cell, List.getElem?_eq_getElem high, Option.getD_some]

theorem of_bits_tight (bits : List Bool) : (ofBits bits).Tight :=
  (push_all_bit bits empty empty_tight 0).1

-- The bits of the last byte that stand for cells come first.
theorem kept_mask_bit (m j : Nat) (positive : 0 < m) (few : m < 8) (small : j < 8) :
    ((0xff : UInt8) <<< UInt8.ofNat (8 - m)).toNat.testBit (7 - j) = decide (j < m) := by
  have table : ∀ a b : Fin 8, 0 < a.val →
      ((0xff : UInt8) <<< UInt8.ofNat (8 - a.val)).toNat.testBit (7 - b.val) =
        decide (b.val < a.val) := by
    decide
  exact table ⟨m, few⟩ ⟨j, small⟩ positive

theorem trim_size (bytes : Array UInt8) (length : Nat) (held : length ≤ 8 * bytes.size) :
    (trim bytes length).size = (length + 7) / 8 := by
  have kept : (bytes.take ((length + 7) / 8)).size = (length + 7) / 8 := by
    simp
    omega
  unfold trim
  dsimp only
  split
  · exact kept
  · rw [Array.size_modify, kept]

theorem trim_bit (bytes : Array UInt8) (length : Nat) (held : length ≤ 8 * bytes.size) (i : Nat) :
    (⟨trim bytes length, length⟩ : Revolution).bitAt i =
      (decide (i < length) && ((byteBits bytes.toList)[i]?).getD false) := by
  have kept : (bytes.take ((length + 7) / 8)).size = (length + 7) / 8 := by
    simp
    omega
  have old : ∀ k, (bytes.take ((length + 7) / 8))[k]? =
      if k < (length + 7) / 8 then bytes[k]? else none := by
    intro k
    have list : (bytes.take ((length + 7) / 8)).toList = bytes.toList.take ((length + 7) / 8) := by simp
    rw [← Array.getElem?_toList, list, List.getElem?_take, Array.getElem?_toList]
  rw [byte_bits_cell, Array.getElem?_toList, bitAt, Array.getD_eq_getD_getElem?]
  dsimp only [trim]
  by_cases whole : length % 8 = 0
  · rw [if_pos whole, old]
    by_cases within : i < length
    · rw [if_pos (by omega), decide_eq_true within, Bool.true_and]
    · rw [if_neg (by omega), decide_eq_false within, Bool.false_and]
      simp
  · rw [if_neg whole, Array.getElem?_modify, kept, old]
    by_cases last : (length + 7) / 8 - 1 = i / 8
    · -- Only in the last byte does the mask clear bits.
      have present : i / 8 < bytes.size := by omega
      have inside : decide (i % 8 < length % 8) = decide (i < length) := by
        rw [decide_eq_decide]
        omega
      rw [if_pos last, if_pos (by omega), Array.getElem?_eq_getElem present, Option.map_some,
        Option.getD_some, Option.getD_some, UInt8.toNat_and, Nat.testBit_and,
        kept_mask_bit _ _ (by omega) (by omega) (by omega), inside, Bool.and_comm]
    · rw [if_neg last]
      by_cases within : i < length
      · rw [if_pos (by omega), decide_eq_true within, Bool.true_and]
      · rw [if_neg (by omega), decide_eq_false within, Bool.false_and]
        simp

section
variable {r s : Revolution}

theorem of_bytes_held {bytes : Array UInt8} {length : Nat} (found : ofBytes? bytes length = some r) :
    length ≤ 8 * bytes.size ∧ r = ⟨trim bytes length, length⟩ := by
  unfold ofBytes? at found
  split at found
  · rename_i held
    exact ⟨held, (Option.some.inj found).symm⟩
  · cases found

theorem of_bytes_tight {bytes : Array UInt8} {length : Nat}
    (found : ofBytes? bytes length = some r) : r.Tight := by
  obtain ⟨held, rfl⟩ := of_bytes_held found
  refine ⟨trim_size bytes length held, fun i behind => ?_⟩
  rw [trim_bit bytes length held, decide_eq_false (Nat.not_lt_of_le behind), Bool.false_and]

theorem of_bytes_to_list {bytes : Array UInt8} {length : Nat}
    (found : ofBytes? bytes length = some r) :
    r.toList = (byteBits bytes.toList).take length := by
  obtain ⟨held, rfl⟩ := of_bytes_held found
  apply List.ext_getElem
  · simp
    omega
  · intro i low high
    have within : i < length := by simpa using low
    have cell := to_list_bit ⟨trim bytes length, length⟩ within
    have inside : i < (byteBits bytes.toList).length := by
      simp
      omega
    rw [List.getElem?_eq_getElem low, trim_bit bytes length held, decide_eq_true within,
      List.getElem?_eq_getElem inside] at cell
    rw [List.getElem_take]
    exact Option.some.inj cell

theorem Built.tight (built : r.Built) : r.Tight := by
  induction built with
  | empty => exact empty_tight
  | bytes held => exact of_bytes_tight held
  | bits bits => exact of_bits_tight bits
  | push _ bit tight => exact push_tight _ tight bit

theorem Tight.byte_bits (tight : r.Tight) :
    byteBits r.bytes.toList =
      r.toList ++ List.replicate (8 * r.bytes.size - r.length) false := by
  have size := tight.size
  apply List.ext_getElem
  · simp
    omega
  · intro i low high
    have bit := bit_at_bytes r i
    rw [List.getElem?_eq_getElem low, Option.getD_some] at bit
    rw [← bit]
    by_cases within : i < r.length
    · have cell := to_list_bit r within
      rw [List.getElem_append_left (by simpa using within)]
      exact (List.getElem?_eq_some_iff.mp cell).2.symm
    · rw [List.getElem_append_right (by simpa using Nat.le_of_not_lt within),
        List.getElem_replicate, tight.clear i (Nat.le_of_not_lt within)]

theorem Tight.packed (tight : r.Tight) : r.packed = r.bytes.toList := by
  have whole : r.bytes.take r.bytes.size = r.bytes := by simp
  rw [Revolution.packed, ← tight.size, whole]

theorem Tight.same (tight : r.Tight) (other : s.Tight) (cells : r.toList = s.toList) : r = s := by
  have length : r.length = s.length := by
    rw [← to_list_length, ← to_list_length, cells]
  have size : r.bytes.size = s.bytes.size := by
    rw [tight.size, other.size, length]
  have bits : byteBits r.bytes.toList = byteBits s.bytes.toList := by
    rw [tight.byte_bits, other.byte_bits, cells, length, size]
  have bytes : r.bytes = s.bytes :=
    Array.toList_inj.mp (byte_bits_injective _ _ (by simpa using size) bits)
  cases r
  cases s
  cases bytes
  cases length
  rfl

theorem Tight.of_bits (tight : r.Tight) : ofBits r.toList = r :=
  (of_bits_tight _).same tight (of_bits_to_list _)

end

-- The length in 32 bits, which wraps where there are more cells than they can count.
def count (r : Revolution) : UInt32 := UInt32.ofNat r.length

end Revolution

end FloppyTrack
