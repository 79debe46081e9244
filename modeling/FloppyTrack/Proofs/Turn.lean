import FloppyTrack.Proofs.Clocking
import FloppyTrack.Proofs.Mark

set_option autoImplicit false

namespace FloppyTrack

theorem window_inside {α : Type} (front middle back : List α) {k n : Nat} (late : front.length ≤ k)
    (soon : k + n ≤ front.length + middle.length) :
    ((front ++ middle ++ back).drop k).take n <:+: middle := by
  have skipped : (front ++ middle ++ back).drop k = middle.drop (k - front.length) ++ back := by
    rw [List.append_assoc, List.drop_append, List.drop_eq_nil_of_le late, List.nil_append,
      List.drop_append_of_le_length (by omega)]
  rw [skipped, List.take_append_of_le_length (by rw [List.length_drop]; omega)]
  exact (List.take_prefix _ _).isInfix.trans (List.drop_suffix _ _).isInfix

namespace Emission

variable {e : Emission}

-- No cell is dropped and none is left over.
theorem filled_whole {head bits : List Bool} {gap : Nat} (lays : e.Lays head bits)
    (whole : head.length + 2 * (bits.length + gap) = e.total) :
    e.filled.toList = head ++ mfmCells (head.getLastD false) (bits ++ List.replicate gap false) := by
  have size := lays_size lays
  have same : e.gapBits = gap := by
    unfold gapBits
    omega
  rw [filled_cells lays, same, List.take_of_length_le]
  simp only [List.length_append, mfm_cells_length, List.length_replicate]
  omega

theorem met_once {clear core rest : List Bool} (turn : e.filled.toList = clear ++ core ++ rest)
    (nonempty : core ≠ []) (alone : ¬ core <:+: core.tail ++ rest ++ (clear ++ core.dropLast)) {n : Nat}
    (shown : e.toRevolution.stretch n core.length = core) :
    n % e.total = (e.offset + clear.length) % e.total := by
  have size : clear.length + core.length + rest.length = e.total := by
    rw [← e.filled_size, ← Array.length_toList, turn, List.length_append, List.length_append]
  have cells : 0 < core.length := List.length_pos_iff.mpr nonempty
  obtain ⟨d, near, place⟩ := e.distance (by omega) n
  by_cases same : d = clear.length
  · rw [place, same]
  · exfalso
    -- The window starts behind the first cell of the pattern, in this turn or in the next.
    obtain ⟨k, late, soon, turned⟩ : ∃ k, clear.length < k ∧ k < clear.length + e.total ∧
        (e.offset + k) % e.total = n % e.total := by
      by_cases before : d < clear.length
      · exact ⟨d + e.total, by omega, by omega, by rw [place, ← Nat.add_assoc, Nat.add_mod_right]⟩
      · exact ⟨d, by omega, by omega, place.symm⟩
    have doubled : e.filled.toList ++ e.filled.toList = (clear ++ [core.head nonempty]) ++
        (core.tail ++ rest ++ (clear ++ core.dropLast)) ++ (core.getLast nonempty :: rest) := by
      calc
        _ = clear ++ core ++ rest ++ (clear ++ core ++ rest) := by rw [turn]
        _ = clear ++ (core.head nonempty :: core.tail) ++ rest ++
              (clear ++ (core.dropLast ++ [core.getLast nonempty]) ++ rest) := by
          rw [List.cons_head_tail, List.dropLast_concat_getLast]
        _ = _ := by simp only [List.append_assoc, List.cons_append, List.nil_append]
    rw [← Revolution.stretch_congr _ (e.offset + k) n _ (by simpa using turned),
      stretch_turned e (by omega) k core.length (by omega), doubled] at shown
    apply alone
    have inside := window_inside (clear ++ [core.head nonempty])
      (core.tail ++ rest ++ (clear ++ core.dropLast)) (core.getLast nonempty :: rest) (k := k)
      (n := core.length) (by rw [List.length_append]; exact late) (by simp; omega)
    rwa [shown] at inside

end Emission

-- The turn of `e` starts with `clear` and `core`, ends with `lead`, and shows `core` nowhere else.
structure Stamped (mark : Sync) (lead clear core rest : List Bool) (e : Emission) : Prop where
  turn : e.filled.toList = clear ++ core ++ rest
  cells : mark.cells = lead ++ (clear ++ core)
  behind : lead <:+ rest
  leads : core.head? = some true
  alone : ¬ core <:+: core.tail ++ rest ++ (clear ++ core.dropLast)

namespace Stamped

variable {mark : Sync} {lead clear core rest : List Bool} {e : Emission}

theorem nonempty (stamped : Stamped mark lead clear core rest e) : core ≠ [] := by
  rintro rfl
  cases stamped.leads

theorem size (stamped : Stamped mark lead clear core rest e) :
    (clear ++ core).length + rest.length = e.total := by
  rw [← List.length_append, ← stamped.turn, Array.length_toList, e.filled_size]

theorem total_positive (stamped : Stamped mark lead clear core rest e) : 0 < e.total := by
  have cells := List.length_pos_iff.mpr stamped.nonempty
  have size := stamped.size
  rw [List.length_append] at size
  omega

theorem seen_places (stamped : Stamped mark lead clear core rest e) (proper : mark.Proper) {n : Nat}
    (seen : mark.seenAt e.toRevolution n = true) :
    n % e.total = (e.offset + (clear ++ core).length) % e.total := by
  have cells : mark.cells = lead ++ clear ++ core := by rw [stamped.cells, List.append_assoc]
  obtain ⟨behind, shown⟩ := Sync.seen_core proper cells stamped.leads seen
  have met := Emission.met_once stamped.turn stamped.nonempty stamped.alone shown
  have moved := congrArg (fun place => (place + core.length) % e.total) met
  simp only [Nat.mod_add_mod] at moved
  rwa [Nat.sub_add_cancel behind, Nat.add_assoc, ← List.length_append] at moved

-- From the second turn on the cells that lead to the mark have been read.
theorem seen_again (stamped : Stamped mark lead clear core rest e) (proper : mark.Proper) :
    mark.seenAt e.toRevolution (e.offset % e.total + (clear ++ core).length + e.total) = true := by
  obtain ⟨between, ends⟩ := stamped.behind
  have size := stamped.size
  have length := congrArg List.length ends
  rw [List.length_append] at length
  have bits : mark.bits = lead.length + (clear ++ core).length := by
    rw [← Sync.cells_length, stamped.cells, List.length_append]
  have turned := e.stretch_turned stamped.total_positive (e.total - lead.length) mark.bits (by omega)
  have doubled : e.filled.toList ++ e.filled.toList =
      (clear ++ core ++ between) ++ (mark.cells ++ rest) := by
    rw [stamped.turn, stamped.cells, ← ends]
    simp only [List.append_assoc]
  have front : e.total - lead.length = (clear ++ core ++ between).length := by
    rw [List.length_append]
    omega
  rw [doubled, front, List.drop_left, List.take_left' (Sync.cells_length mark), ← front] at turned
  have place : e.offset % e.total + (clear ++ core).length + e.total =
      e.offset % e.total + (e.total - lead.length) + mark.bits := by
    omega
  rw [place, Sync.seen_iff proper, ← turned]
  apply Revolution.stretch_congr
  rw [Emission.to_revolution_length, Nat.mod_add_mod]

end Stamped

-- The turn of `e` is `bits` with their clocks, also where it closes.
structure Clocked (e : Emission) (bits : List Bool) : Prop where
  turn : e.filled.toList = mfmCells false bits
  ends : bits.getLastD false = false

namespace Clocked

variable {e : Emission} {bits : List Bool}

theorem size (clocked : Clocked e bits) : e.total = 2 * bits.length := by
  rw [← e.filled_size, ← Array.length_toList, clocked.turn, mfm_cells_length]

theorem twice (clocked : Clocked e bits) :
    e.filled.toList ++ e.filled.toList = mfmCells false (bits ++ bits) := by
  rw [mfm_cells_append, clocked.ends, clocked.turn]

theorem stretch_bits (clocked : Clocked e bits) (nonempty : 0 < e.total) (i k : Nat)
    (within : i + k ≤ e.total) :
    ∃ last, e.toRevolution.stretch (e.offset + 2 * i) (2 * k) =
      mfmCells last (((bits ++ bits).drop i).take k) := by
  have size := clocked.size
  have front : ((bits ++ bits).take i).length = i := by simp; omega
  refine ⟨((bits ++ bits).take i).getLastD false, ?_⟩
  rw [e.stretch_turned nonempty (2 * i) (2 * k) (by omega), clocked.twice]
  nth_rewrite 1 [← List.take_append_drop i (bits ++ bits)]
  rw [mfm_cells_append, List.drop_left' (by rw [mfm_cells_length, front]), mfm_cells_take]

theorem data_shown (clocked : Clocked e bits) (nonempty : 0 < e.total) (i k : Nat)
    (within : i + k ≤ e.total) :
    e.toRevolution.dataBits (e.offset + 2 * i) k = ((bits ++ bits).drop i).take k := by
  obtain ⟨last, shown⟩ := clocked.stretch_bits nonempty i k within
  rw [← Revolution.data_cells_stretch, shown, data_cells_mfm_cells]

-- A clock cell and the data cells on both sides of it are never all clear.
theorem clock_between (clocked : Clocked e bits) (nonempty : 0 < e.total) (i : Nat)
    (within : i + 1 < e.total) :
    e.toRevolution.stretch (e.offset + (2 * i + 1)) 3 ≠ List.replicate 3 false := by
  have size := clocked.size
  intro clear
  rw [e.stretch_turned nonempty (2 * i + 1) 3 (by omega), clocked.twice] at clear
  obtain ⟨j, near, set⟩ := no_clear_triple false (bits ++ bits) i (by simp; omega)
  have cell := congrArg (fun cells => cells[j]?) clear
  simp only [List.getElem?_take_of_lt near, List.getElem?_drop, set, List.getElem?_replicate,
    if_pos near] at cell
  cases cell

end Clocked

end FloppyTrack
