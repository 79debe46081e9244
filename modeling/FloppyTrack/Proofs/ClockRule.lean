import FloppyTrack.Proofs.Clocking
import FloppyTrack.Proofs.Emitted

set_option autoImplicit false

namespace FloppyTrack

-- A clock is set exactly when the bits on both sides of it are clear. The cells may end anywhere.
structure ClockRule (last : Bool) (bits cells : List Bool) : Prop where
  extent : cells.length ≤ 2 * bits.length
  data : ∀ k, 2 * k + 1 < cells.length → cells[2 * k + 1]? = bits[k]?
  clock : ∀ k, 2 * k < cells.length →
    (cells[2 * k]? = some true ↔ (last :: bits)[k]? = some false ∧ bits[k]? = some false)

theorem mfm_clock_set (last : Bool) (bits : List Bool) (k : Nat) :
    (mfmCells last bits)[2 * k]? = some true ↔
      (last :: bits)[k]? = some false ∧ bits[k]? = some false := by
  induction bits generalizing last k with
  | nil => simp [mfmCells]
  | cons bit bits ih =>
    cases k with
    | zero => simp [mfmCells]
    | succ k => exact ih bit k

theorem mfm_clock_rule (last : Bool) (bits : List Bool) (n : Nat) :
    ClockRule last bits ((mfmCells last bits).take n) := by
  refine ⟨?_, fun k inside => ?_, fun k inside => ?_⟩
  · rw [List.length_take, mfm_cells_length]
    exact Nat.min_le_right _ _
  · rw [List.length_take] at inside
    rw [List.getElem?_take_of_lt (by omega), mfm_data_cell]
  · rw [List.length_take] at inside
    rw [List.getElem?_take_of_lt (by omega), mfm_clock_set]

-- A word that misses a clock between two clear bits, whether its cells at even or at odd places are
-- the data.
def Unclocked (word : List Bool) : Prop :=
  ∀ parity, parity < 2 → ∃ i, i < word.length ∧ i % 2 = parity ∧
    ∀ d, d < 3 → word[i + d]? = some false

instance (word : List Bool) : Decidable (Unclocked word) :=
  inferInstanceAs (Decidable (∀ parity, parity < 2 → ∃ i, i < word.length ∧ i % 2 = parity ∧
    ∀ d, d < 3 → word[i + d]? = some false))

-- Words of sixteen cells that marks are made of.
def unclockedWords : List Nat := [0x9521, 0xa144, 0x4124, 0x8945]

theorem words_unclocked : ∀ value ∈ unclockedWords, Unclocked (Bits.ofNat 16 value) := by
  decide

-- None of the words stands in `cells`, at even or at odd places.
def Unmarked (cells : List Bool) : Prop := ∀ value ∈ unclockedWords, ¬ Bits.ofNat 16 value <:+: cells

namespace ClockRule

variable {last : Bool} {bits cells : List Bool}

theorem clock_between (rule : ClockRule last bits cells) (j : Nat) :
    ¬ ∀ d, d < 3 → cells[2 * j + 1 + d]? = some false := by
  intro clear
  have inside : 2 * j + 1 + 2 < cells.length := (List.getElem?_eq_some_iff.mp (clear 2 (by decide))).1
  have before := rule.data j (by omega)
  have behind := rule.data (j + 1) (by omega)
  have clock := rule.clock (j + 1) (by omega)
  rw [List.getElem?_cons_succ, ← before, ← behind] at clock
  have set := clock.mpr ⟨clear 0 (by decide), clear 2 (by decide)⟩
  rw [show 2 * (j + 1) = 2 * j + 1 + 1 by omega, clear 1 (by decide)] at set
  cases set

theorem absent (rule : ClockRule last bits cells) {word : List Bool} (unclocked : Unclocked word) :
    ¬ word <:+: cells := by
  rintro ⟨front, back, rfl⟩
  -- Where the word stands decides which of its cells are the data.
  obtain ⟨i, inside, parity, clear⟩ := unclocked ((front.length + 1) % 2) (Nat.mod_lt _ (by decide))
  obtain ⟨j, place⟩ : ∃ j, front.length + i = 2 * j + 1 := ⟨(front.length + i) / 2, by omega⟩
  refine rule.clock_between j fun d near => ?_
  have cell := clear d near
  have within : i + d < word.length := (List.getElem?_eq_some_iff.mp cell).1
  rw [← place, Nat.add_assoc, List.append_assoc, List.getElem?_append_right (Nat.le_add_right _ _),
    Nat.add_sub_cancel_left, List.getElem?_append_left within, cell]

theorem unmarked (rule : ClockRule last bits cells) : Unmarked cells :=
  fun value listed => rule.absent (words_unclocked value listed)

end ClockRule

namespace Emission

variable {e : Emission} {head bits : List Bool}

theorem run_lays (lays : e.Lays head bits) (calls : List Call)
    (clocked : ∀ call ∈ calls, call.encoding ≠ .raw) :
    (e.run calls).Lays head (bits ++ calls.flatMap Call.bits) := by
  induction calls generalizing e bits with
  | nil =>
    rw [List.flatMap_nil, List.append_nil]
    exact lays
  | cons call calls ih =>
    have first := (write_more lays call.encoding (clocked call List.mem_cons_self) call.bits).1
    rw [← after_write] at first
    have rest := ih first fun later listed => clocked later (List.mem_cons_of_mem call listed)
    rw [List.flatMap_cons, ← List.append_assoc]
    exact rest

-- `e` is what is there before. The cells of the calls come behind it, and in the finished turn those
-- of the gap as well.
theorem emission_clocked (e : Emission) (calls : List Call)
    (clocked : ∀ call ∈ calls, call.encoding ≠ .raw) :
    (∃ cells, (e.run calls).cells.toList = e.cells.toList ++ cells ∧
      cells.length = 2 * (calls.flatMap Call.bits).length ∧
      ClockRule (e.cells.toList.getLastD false) (calls.flatMap Call.bits) cells ∧ Unmarked cells) ∧
    ∃ cells zeros, (e.run calls).filled.toList = e.cells.toList.take e.total ++ cells ∧
      ClockRule (e.cells.toList.getLastD false)
        (calls.flatMap Call.bits ++ List.replicate zeros false) cells ∧ Unmarked cells := by
  have lays := run_lays e.lays_whole calls clocked
  have total := (run_cells calls e).2.1
  rw [List.nil_append] at lays
  constructor
  · have rule := mfm_clock_rule (e.cells.toList.getLastD false) (calls.flatMap Call.bits)
      (2 * (calls.flatMap Call.bits).length)
    rw [List.take_of_length_le (Nat.le_of_eq (mfm_cells_length _ _))] at rule
    exact ⟨_, lays.cells, mfm_cells_length _ _, rule, rule.unmarked⟩
  · have rule := mfm_clock_rule (e.cells.toList.getLastD false)
      (calls.flatMap Call.bits ++ List.replicate (e.run calls).gapBits false)
      (e.total - e.cells.toList.length)
    refine ⟨_, _, ?_, rule, rule.unmarked⟩
    rw [filled_cells lays, total, List.take_append]

-- Behind a set cell, with a half of three bits, on a turn that cuts off the last data bit of the gap.
theorem short_turn_clocked :
    (∀ call ∈ [Call.word .odd 3 5, .block .even [0x12]], call.encoding ≠ .raw) ∧
    (∃ cells, ((Emission.mk 20 7 #[true]).run
        [.word .odd 3 5, .block .even [0x12]]).cells.toList = true :: cells ∧ cells.length = 12 ∧
      ClockRule true [true, true, false, false, false, true] cells ∧ Unmarked cells) ∧
    ∃ cells zeros, ((Emission.mk 20 7 #[true]).run
        [.word .odd 3 5, .block .even [0x12]]).filled.toList = true :: cells ∧
      ClockRule true ([true, true, false, false, false, true] ++ List.replicate zeros false) cells ∧
      Unmarked cells := by
  have clocked : ∀ call ∈ [Call.word .odd 3 5, .block .even [0x12]], call.encoding ≠ .raw := by
    decide
  exact ⟨clocked, emission_clocked (Emission.mk 20 7 #[true]) _ clocked⟩

end Emission

end FloppyTrack
