import FloppyTrack.Sync
import FloppyTrack.Proofs.Replay

set_option autoImplicit false

namespace FloppyTrack

namespace Sync

def cells (mark : Sync) : List Bool := Bits.ofNat mark.bits mark.value.toNat

def seenAt (mark : Sync) (r : Revolution) (n : Nat) : Bool := mark.isAt (r.latest n)

structure Proper (mark : Sync) : Prop where
  width : mark.bits = 16 ∨ mark.bits = 32
  fits : mark.value.toNat < 2 ^ mark.bits

variable {mark : Sync} {r : Revolution}

@[simp] theorem cells_length (mark : Sync) : mark.cells.length = mark.bits := by
  simp [cells]

-- The cells of a mark from its first set one on.
def core (mark : Sync) : List Bool := mark.cells.dropWhile (! ·)

theorem core_cells (mark : Sync) : mark.cells = mark.cells.takeWhile (! ·) ++ mark.core :=
  List.takeWhile_append_dropWhile.symm

theorem core_short {mark : Sync} (proper : mark.Proper) : mark.core.length ≤ 32 := by
  have part := (List.dropWhile_suffix (l := mark.cells) (! ·)).length_le
  rw [cells_length] at part
  have width := proper.width
  change (mark.cells.dropWhile (! ·)).length ≤ 32
  omega

theorem mask_value (proper : mark.Proper) : mark.mask.toNat = 2 ^ mark.bits - 1 := by
  unfold mask
  rcases proper.width with width | width <;> rw [width] <;> rfl

theorem is_at_iff (proper : mark.Proper) (word : UInt32) :
    mark.isAt word = true ↔ Bits.ofNat mark.bits word.toNat = mark.cells := by
  have masked : (word &&& mark.mask).toNat = word.toNat % 2 ^ mark.bits := by
    rw [UInt32.toNat_and, mask_value proper, Nat.and_two_pow_sub_one_eq_mod]
  rw [isAt, beq_iff_eq, ← UInt32.toNat_inj, masked, cells, Bits.of_nat_eq_iff,
    Nat.mod_eq_of_lt proper.fits]

theorem seen_iff (proper : mark.Proper) (n : Nat) :
    mark.seenAt r (n + mark.bits) = true ↔ r.stretch n mark.bits = mark.cells := by
  have fits : mark.bits ≤ 32 := by rcases proper.width with width | width <;> omega
  rw [seenAt, is_at_iff proper, Revolution.latest_cells r n mark.bits fits]

-- The cells of a mark behind its leading clear ones must have been read, wherever it is seen.
theorem seen_core (proper : mark.Proper) {clear core : List Bool} (cells : mark.cells = clear ++ core)
    (leads : core.head? = some true) {n : Nat} (seen : mark.seenAt r n = true) :
    core.length ≤ n ∧ r.stretch (n - core.length) core.length = core := by
  have width : clear.length + core.length = mark.bits := by
    rw [← List.length_append, ← cells, cells_length]
  have fits : core.length ≤ 32 := by rcases proper.width with width | width <;> omega
  have nonempty : 0 < core.length := List.length_pos_iff.mpr (by rintro rfl; cases leads)
  rw [seenAt, is_at_iff proper, cells, ← width, Bits.of_nat_append] at seen
  obtain ⟨-, shown⟩ := List.append_inj' seen (Bits.of_nat_length _ _)
  have behind : core.length ≤ n := by
    have first : (r.latest n).toNat.testBit (core.length - 1) = true := by
      rw [← shown, List.head?_eq_getElem?, List.getElem?_eq_getElem (by simpa using nonempty)] at leads
      simpa [Bits.of_nat_get] using leads
    rw [Revolution.latest_bit, Bool.and_eq_true, decide_eq_true_eq] at first
    omega
  have latest := Revolution.latest_cells r (n - core.length) core.length fits
  rw [Nat.sub_add_cancel behind, shown] at latest
  exact ⟨behind, latest.symm⟩

theorem seen_history (proper : mark.Proper) {n : Nat} (seen : mark.seenAt r n = true) :
    mark.cells <:+ List.replicate 32 false ++ r.stretch 0 n := by
  have fits : mark.bits ≤ 32 := by rcases proper.width with width | width <;> omega
  obtain ⟨before, width⟩ := Nat.exists_eq_add_of_le' fits
  have history := r.latest_history n
  rw [seenAt, is_at_iff proper] at seen
  rw [width, Bits.of_nat_append, seen] at history
  have last : mark.cells <:+
      (List.replicate (before + mark.bits) false ++ r.stretch 0 n).drop n := by
    rw [← history]
    exact List.suffix_append _ _
  rw [width]
  exact last.trans (List.drop_suffix _ _)

-- The leading clear cells of a mark need not have been read.
theorem seen_turned (proper : mark.Proper) {clear : Nat} {core : List Bool}
    (cells : mark.cells = List.replicate clear false ++ core) {place n : Nat}
    (shown : r.stretch place mark.bits = mark.cells) (late : core.length ≤ n)
    (same : n % r.length = (place + mark.bits) % r.length) : mark.seenAt r n = true := by
  have width : clear + core.length = mark.bits := by
    rw [← cells_length, cells, List.length_append, List.length_replicate]
  have fits : mark.bits ≤ 32 := by rcases proper.width with width | width <;> omega
  rw [seenAt, is_at_iff proper]
  apply List.ext_getElem (by simp)
  intro i low high
  have inside : i < mark.bits := by simpa using low
  rw [Bits.of_nat_get, Revolution.latest_bit]
  by_cases read : mark.bits - 1 - i < n
  · have behind : n - 1 - (mark.bits - 1 - i) + (mark.bits - i) = n := by omega
    have ahead : place + i + (mark.bits - i) = place + mark.bits := by omega
    have turned : (n - 1 - (mark.bits - 1 - i)) % r.length = (place + i) % r.length := by
      apply Nat.ModEq.add_right_cancel' (mark.bits - i)
      rw [Nat.ModEq, behind, ahead, same]
    have cell : mark.cells[i] = r.replay (place + i) := by
      rw [← List.getElem_of_eq shown (by simpa using inside)]
      simp [Revolution.stretch]
    rw [decide_eq_true ⟨by omega, read⟩, Bool.true_and, cell, Revolution.replay, Revolution.replay,
      turned]
  · have unread : i < clear := by omega
    rw [decide_eq_false (by omega), Bool.false_and, List.getElem_of_eq cells,
      List.getElem_append_left (by simpa using unread), List.getElem_replicate]

theorem not_seen_early (proper : mark.Proper) (leads : mark.cells.head? = some true) (n : Nat)
    (early : n < mark.bits) : mark.seenAt r n = false := by
  rw [Bool.eq_false_iff]
  intro seen
  have whole : mark.cells = [] ++ mark.cells := rfl
  have behind := (seen_core proper whole leads seen).1
  rw [cells_length] at behind
  exact absurd behind (Nat.not_le_of_lt early)

end Sync

end FloppyTrack
