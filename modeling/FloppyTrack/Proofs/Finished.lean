import FloppyTrack.Proofs.Emitted

set_option autoImplicit false

namespace FloppyTrack

theorem Revolution.get_cell (r : Revolution) {i : Nat} (within : i < r.length) :
    r.get? i = some (r.cell i) := by
  simp [cell, get?, within]

theorem turned_place (offset : Nat) {total place : Nat} (within : place < total) :
    ∃! i, i < total ∧ (offset + i) % total = place := by
  obtain ⟨i, less, there⟩ :=
    (Emission.start total offset).distance (Nat.zero_lt_of_lt within) place
  have here : (offset + i) % total = place := there.symm.trans (Nat.mod_eq_of_lt within)
  refine ⟨i, ⟨less, here⟩, ?_⟩
  rintro j ⟨small, same⟩
  have turned : (offset + j) % total = (offset + i) % total := same.trans here.symm
  rw [← Nat.mod_eq_of_lt small, ← Nat.mod_eq_of_lt less]
  exact Nat.ModEq.add_left_cancel' offset turned

theorem mfm_zeros_longer (last : Bool) {m n d : Nat} (within : d < 2 * m) (longer : m ≤ n) :
    (mfmCells last (List.replicate m false))[d]? = (mfmCells last (List.replicate n false))[d]? := by
  obtain ⟨more, rfl⟩ := Nat.exists_eq_add_of_le longer
  rw [← List.replicate_append_replicate, mfm_cells_append, List.getElem?_append_left (by simpa using within)]

namespace Emission

theorem finished_cell (e : Emission) {i : Nat} (within : i < e.total) :
    e.toRevolution.get? ((e.offset + i) % e.total) = e.filled[i]? := by
  have room : 0 < e.total := Nat.zero_lt_of_lt within
  have placed := replay_placed e room i
  rw [Revolution.replay, to_revolution_length, Nat.mod_eq_of_lt within,
    Array.getElem?_eq_getElem (by simpa using within), Option.getD_some] at placed
  rw [Revolution.get_cell _ (by simpa using Nat.mod_lt _ room), placed,
    Array.getElem?_eq_getElem (by simpa using within)]

theorem filled_cell (e : Emission) {i : Nat} (within : i < e.total) :
    e.filled[i]? =
      if i < e.size then e.cells[i]?
      else (mfmCells e.last (List.replicate e.total false))[i - e.size]? := by
  rw [← Array.getElem?_toList, filled_cells e.lays_whole, List.getElem?_take_of_lt within, ← last_of_cells,
    List.nil_append]
  split <;> rename_i emitted
  · rw [List.getElem?_append_left (by rwa [Array.length_toList]), Array.getElem?_toList]
  · rw [List.getElem?_append_right (by rw [Array.length_toList]; exact Nat.le_of_not_lt emitted),
      Array.length_toList]
    have few : e.gapBits ≤ e.total := by
      rw [gapBits]
      omega
    have gap : i - e.size < 2 * e.gapBits := by
      rw [gapBits]
      omega
    exact mfm_zeros_longer e.last gap few

-- The cells are those of the calls. What they leave of the turn is filled, and what does not fit is
-- dropped; the turn has no other cells.
theorem finished_cells (total offset : Nat) (calls : List Call) :
    ((start total offset).run calls).toRevolution.length = total ∧
      (∀ i, i < total →
        ((start total offset).run calls).toRevolution.get? ((offset + i) % total) =
          if i < (emitted false calls).length then (emitted false calls)[i]?
          else (mfmCells ((emitted false calls).getLastD false)
            (List.replicate total false))[i - (emitted false calls).length]?) ∧
      ∀ place, place < total → ∃! i, i < total ∧ (offset + i) % total = place := by
  obtain ⟨cells, totals, offsets⟩ := run_cells calls (start total offset)
  have same : ((start total offset).run calls).cells.toList = emitted false calls := cells
  refine ⟨(to_revolution_length _).trans totals, fun i within => ?_, fun _ => turned_place offset⟩
  have placed := finished_cell ((start total offset).run calls) (i := i) (by rwa [totals])
  rw [filled_cell _ (by rwa [totals]), last_of_cells, size, ← Array.getElem?_toList,
    ← Array.length_toList, same, totals, offsets] at placed
  exact placed

-- Two cells leave three of the turn, and the offset is a turn and two cells.
example : ((start 5 7).run [.word .raw 2 3]).toRevolution.toList = [false, true, true, true, false] := by
  decide

end Emission

end FloppyTrack
