import Mathlib.Data.Nat.Bitwise
import FloppyTrack.Proofs.Placement
import FloppyTrack.Proofs.Sums

set_option autoImplicit false

namespace FloppyTrack

theorem flipped_ne {bits : List Bool} {i : Nat} (inside : i < bits.length) :
    bits.modify i not ≠ bits := by
  intro same
  have cell := congrArg (fun bits => bits[i]?) same
  simp [inside] at cell

-- Without carry, what one group gains is lost by no other.
theorem group_sum_flipped (groups : Nat) (bits : List Bool) (i : Nat) (inside : i < bits.length)
    (within : i < 16 * groups) : groupSum groups (bits.modify i not) ≠ groupSum groups bits := by
  induction groups generalizing bits i with
  | zero => omega
  | succ groups ih =>
    intro same
    rw [groupSum, groupSum, List.take_modify] at same
    by_cases here : i < 16
    · rw [List.drop_modify_of_lt _ _ _ _ here] at same
      have group := Bits.to_nat_injective _ _ (List.length_modify ..) (Nat.xor_left_inj.mp same)
      exact flipped_ne (by simpa using ⟨here, inside⟩) group
    · have short : (bits.take 16).length ≤ i := Nat.le_trans (List.length_take_le _ _) (by omega)
      rw [List.modify_eq_self short, List.drop_modify_of_ge _ _ _ _ (by omega)] at same
      exact ih (bits.drop 16) (i - 16) (by rw [List.length_drop]; omega) (by omega)
        (Nat.xor_right_inj.mp same)

namespace Revolution

def invert (r : Revolution) (hit : Nat → Bool) : Revolution :=
  ofBits ((List.range r.length).map fun i => r.cell i ^^ hit i)

@[simp] theorem invert_length (r : Revolution) (hit : Nat → Bool) :
    (r.invert hit).length = r.length := by
  simp [invert]

theorem invert_replay (r : Revolution) (hit : Nat → Bool) (nonempty : 0 < r.length) (n : Nat) :
    (r.invert hit).replay n = (r.replay n ^^ hit (n % r.length)) := by
  have inside := Nat.mod_lt n nonempty
  rw [replay, invert_length, invert, of_bits_cell, List.getElem?_map,
    List.getElem?_range inside]
  rfl

theorem data_bits_part (r : Revolution) (n : Nat) {front k count : Nat} (room : front + k ≤ count) :
    r.dataBits (n + 2 * front) k = ((r.dataBits n count).drop front).take k := by
  obtain ⟨back, rfl⟩ := Nat.exists_eq_add_of_le room
  rw [data_bits_add, data_bits_add, List.append_assoc, List.drop_left' (by simp),
    List.take_left' (by simp)]

-- The data bit `i` of the first `count` behind the `n`-th cell is inverted, and no other.
def Flipped (q r : Revolution) (n count i : Nat) : Prop :=
  q.dataBits n count = (r.dataBits n count).modify i not

theorem flipped_part {q r : Revolution} {n count i front k : Nat} (flipped : Flipped q r n count i)
    (room : front + k ≤ count) (reached : front ≤ i) :
    q.dataBits (n + 2 * front) k = (r.dataBits (n + 2 * front) k).modify (i - front) not := by
  rw [data_bits_part q n room, data_bits_part r n room, flipped,
    List.drop_modify_of_ge _ _ _ _ reached, List.take_modify]

theorem flipped_part_ne {q r : Revolution} {n count i front k : Nat}
    (flipped : Flipped q r n count i) (room : front + k ≤ count) (reached : front ≤ i)
    (inside : i < front + k) : q.dataBits (n + 2 * front) k ≠ r.dataBits (n + 2 * front) k := by
  rw [flipped_part flipped room reached]
  exact flipped_ne (by rw [data_bits_length]; omega)

theorem spared_part {q r : Revolution} {n count i front k : Nat} (flipped : Flipped q r n count i)
    (room : front + k ≤ count) (aside : i < front ∨ front + k ≤ i) :
    q.dataBits (n + 2 * front) k = r.dataBits (n + 2 * front) k := by
  by_cases reached : front ≤ i
  · rw [flipped_part flipped room reached, List.modify_eq_self (by simp; omega)]
  · rw [data_bits_part q n room, data_bits_part r n room, flipped,
      List.drop_modify_of_lt _ _ _ _ (Nat.lt_of_not_le reached)]

theorem invert_flipped (r : Revolution) {n count i cell : Nat} (hit : i < count)
    (place : (n + 2 * i + 1) % r.length = cell) (turn : 2 * count ≤ r.length) :
    Flipped (r.invert (· == cell)) r n count i := by
  apply List.ext_getElem
  · simp
  · intro j low high
    have inside : j < count := by simpa using low
    have once : (n + 2 * j + 1) % r.length = cell ↔ i = j := by
      constructor
      · intro same
        have turned : (n + 1 + 2 * j) % r.length = (n + 1 + 2 * i) % r.length := by
          rw [Nat.add_right_comm, same, Nat.add_right_comm, place]
        have close := Nat.ModEq.add_left_cancel' (n + 1) turned
        have equal := Nat.ModEq.eq_of_lt_of_lt close (by omega) (by omega)
        omega
      · rintro rfl
        exact place
    simp only [dataBits, List.getElem_map, List.getElem_range, List.getElem_modify,
      invert_replay r _ (by omega : 0 < r.length)]
    by_cases same : i = j
    · simp [same, once.mpr same]
    · have elsewhere : ((n + 2 * j + 1) % r.length == cell) = false :=
        beq_eq_false_iff_ne.mpr (mt once.mp same)
      simp [same, elsewhere]

end Revolution

end FloppyTrack
