import FloppyTrack.Proofs.Placement

set_option autoImplicit false

namespace FloppyTrack

theorem no_clear_triple (last : Bool) (bits : List Bool) (j : Nat) (within : j + 1 < bits.length) :
    ∃ i, i < 3 ∧ (mfmCells last bits)[2 * j + 1 + i]? = some true := by
  induction j generalizing last bits with
  | zero =>
    obtain ⟨a, b, rest, rfl⟩ : ∃ a b rest, bits = a :: b :: rest := by
      match bits, within with
      | a :: b :: rest, _ => exact ⟨a, b, rest, rfl⟩
    -- Between two clear data bits the clock is set.
    cases a with
    | true => exact ⟨0, by omega, rfl⟩
    | false =>
      cases b with
      | true => exact ⟨2, by omega, rfl⟩
      | false => exact ⟨1, by omega, rfl⟩
  | succ j ih =>
    cases bits with
    | nil => simp at within
    | cons bit rest =>
      obtain ⟨i, small, set⟩ := ih bit rest (by simpa using within)
      refine ⟨i, small, ?_⟩
      have place : 2 * (j + 1) + 1 + i = 2 * j + 1 + i + 1 + 1 := by omega
      rw [mfmCells, place, List.getElem?_cons_succ, List.getElem?_cons_succ]
      exact set

theorem no_clear_run (last : Bool) (bits : List Bool) (k : Nat) (within : k + 3 < 2 * bits.length) :
    ∃ i, i < 4 ∧ (mfmCells last bits)[k + i]? = some true := by
  obtain ⟨j, even | odd⟩ : ∃ j, k = 2 * j ∨ k = 2 * j + 1 := ⟨k / 2, by omega⟩
  · obtain ⟨i, small, set⟩ := no_clear_triple last bits j (by omega)
    have place : 2 * j + (i + 1) = 2 * j + 1 + i := by omega
    exact ⟨i + 1, by omega, by rw [even, place]; exact set⟩
  · obtain ⟨i, small, set⟩ := no_clear_triple last bits j (by omega)
    exact ⟨i, by omega, by rw [odd]; exact set⟩

theorem mfm_data_cell (last : Bool) (bits : List Bool) (k : Nat) :
    (mfmCells last bits)[2 * k + 1]? = bits[k]? := by
  induction bits generalizing last k with
  | nil => rfl
  | cons bit bits ih =>
    cases k with
    | zero => rfl
    | succ k => exact ih bit k

theorem mfm_clock_cell (last : Bool) {bits : List Bool} {k : Nat} {a b : Bool}
    (before : bits[k]? = some a) (behind : bits[k + 1]? = some b) :
    (mfmCells last bits)[2 * (k + 1)]? = some (!(a || b)) := by
  induction bits generalizing last k with
  | nil => cases before
  | cons bit bits ih =>
    cases k with
    | succ k => exact ih bit before behind
    | zero =>
      cases bits with
      | nil => cases behind
      | cons next bits =>
        cases before
        cases behind
        rfl

-- Four clear cells in a row stand at `gap` in the head and nowhere else in it.
structure ClearOnceAt (head : List Bool) (gap : Nat) : Prop where
  leads : head[0]? = some true
  clear : ∀ i, i < 4 → head[gap + i]? = some false
  once : ∀ k, k < head.length → k ≠ gap → ∃ i, i < 4 ∧ head[k + i]? = some true

namespace Emission

variable {e : Emission} {head bits : List Bool} {gap : Nat}

theorem filled_head (lays : e.Lays head bits) (fits : head.length ≤ e.total) (k : Nat)
    (inside : k < head.length) : e.filled[k]? = head[k]? := by
  rw [← Array.getElem?_toList, filled_cells lays, List.getElem?_take_of_lt (by omega),
    List.getElem?_append_left inside]

theorem filled_clear_once (lays : e.Lays head bits) (fits : head.length ≤ e.total)
    (once : ClearOnceAt head gap) (k : Nat) (within : k < e.total) (elsewhere : k ≠ gap) :
    ∃ i, i < 4 ∧ e.filled[(k + i) % e.total]? = some true := by
  have headed : 0 < head.length := (List.getElem?_eq_some_iff.mp once.leads).1
  by_cases inHead : k < head.length
  · obtain ⟨i, small, set⟩ := once.once k inHead elsewhere
    have inside : k + i < head.length := (List.getElem?_eq_some_iff.mp set).1
    exact ⟨i, small, by rw [Nat.mod_eq_of_lt (by omega), filled_head lays fits _ inside, set]⟩
  · by_cases wraps : e.total ≤ k + 3
    · refine ⟨e.total - k, by omega, ?_⟩
      rw [Nat.add_sub_cancel' (by omega), Nat.mod_self, filled_head lays fits 0 headed, once.leads]
    · have size := lays_size lays
      obtain ⟨i, small, set⟩ := no_clear_run (head.getLastD false)
        (bits ++ List.replicate e.gapBits false) (k - head.length) (by
          simp [gapBits]
          omega)
      refine ⟨i, small, ?_⟩
      have place : k + i - head.length = k - head.length + i := by omega
      rw [Nat.mod_eq_of_lt (by omega), ← Array.getElem?_toList, filled_cells lays,
        List.getElem?_take_of_lt (by omega), List.getElem?_append_right (by omega), place, set]

-- So it is on the regenerated revolution, wherever it is read from.
theorem clear_once (lays : e.Lays head bits) (fits : head.length ≤ e.total)
    (once : ClearOnceAt head gap) (n : Nat)
    (clear : ∀ i, i < 4 → e.toRevolution.replay (n + i) = false) :
    n % e.total = (e.offset + gap) % e.total := by
  have nonempty : 0 < e.total :=
    Nat.lt_of_lt_of_le (List.getElem?_eq_some_iff.mp once.leads).1 fits
  obtain ⟨d, near, same⟩ := e.distance nonempty n
  by_cases there : d = gap
  · rw [same, there]
  · obtain ⟨i, four, set⟩ := filled_clear_once lays fits once d near there
    have cell := clear i four
    rw [Revolution.replay_congr _ n (e.offset + d) (by simpa using same), Nat.add_assoc,
      replay_placed e nonempty, set] at cell
    cases cell

-- The regenerated revolution, read from any place, shows the head only at the offset.
theorem head_once (lays : e.Lays head bits) (fits : head.length ≤ e.total)
    (once : ClearOnceAt head gap) (n : Nat)
    (seen : e.toRevolution.stretch n head.length = head) : n % e.total = e.offset % e.total := by
  have run := clear_once lays fits once (n + gap) fun i four => by
    rw [Nat.add_assoc]
    exact Revolution.stretch_cell seen (once.clear i four)
  exact Nat.ModEq.add_right_cancel' gap run

-- Behind the data the turn goes on with clear data bits: every data cell is clear, and every clock
-- but the first is set.
theorem gap_placed (lays : e.Lays head bits) (j : Nat) (kept : e.size + j < e.total) :
    e.toRevolution.replay (e.offset + (e.size + j)) =
      ((mfmCells (head.getLastD false)
        (bits ++ List.replicate e.gapBits false))[2 * bits.length + j]?).getD false := by
  have size := lays_size lays
  have place : e.size + j - head.length = 2 * bits.length + j := by omega
  rw [replay_placed e (Nat.zero_lt_of_lt kept), Nat.mod_eq_of_lt kept, ← Array.getElem?_toList,
    filled_cells lays, List.getElem?_take_of_lt kept, List.getElem?_append_right (by omega), place]

theorem gap_bit (e : Emission) (bits : List Bool) (j : Nat) (kept : e.size + 2 * j < e.total) :
    (bits ++ List.replicate e.gapBits false)[bits.length + j]? = some false := by
  have within : j < e.gapBits := by
    rw [gapBits]
    omega
  rw [List.getElem?_append_right (Nat.le_add_right _ _), Nat.add_sub_cancel_left,
    List.getElem?_replicate_of_lt within]

theorem gap_data (lays : e.Lays head bits) (j : Nat) (kept : e.size + (2 * j + 1) < e.total) :
    e.toRevolution.replay (e.offset + (e.size + (2 * j + 1))) = false := by
  have place : 2 * bits.length + (2 * j + 1) = 2 * (bits.length + j) + 1 := by omega
  rw [gap_placed lays _ kept, place, mfm_data_cell, gap_bit e bits j (by omega)]
  rfl

theorem gap_clock (lays : e.Lays head bits) (j : Nat) (kept : e.size + (2 * j + 2) < e.total) :
    e.toRevolution.replay (e.offset + (e.size + (2 * j + 2))) = true := by
  have place : 2 * bits.length + (2 * j + 2) = 2 * (bits.length + j + 1) := by omega
  rw [gap_placed lays _ kept, place, mfm_clock_cell _ (gap_bit e bits j (by omega))
    (gap_bit e bits (j + 1) (by omega))]
  rfl

end Emission

end FloppyTrack
