import FloppyTrack.Emission
import FloppyTrack.Proofs.Replay

set_option autoImplicit false

namespace FloppyTrack

namespace Revolution

def bitAt (r : Revolution) (i : Nat) : Bool := (r.bytes.getD (i / 8) 0).toNat.testBit (7 - i % 8)

-- Each push relies on the bits behind the last cell being clear.
structure Tight (r : Revolution) : Prop where
  size : r.bytes.size = (r.length + 7) / 8
  clear : ∀ i, r.length ≤ i → r.bitAt i = false

theorem cell_bit (r : Revolution) (i : Nat) (within : i < r.length) : r.cell i = r.bitAt i := by
  simp [cell, get?, within, bitAt]

theorem cell_mask_bit (i j : Nat) : (cellMask i).toNat.testBit (7 - j % 8) = decide (j % 8 = i % 8) := by
  have table : ∀ a b : Fin 8,
      ((0x80 : UInt8) >>> UInt8.ofNat a.val).toNat.testBit (7 - b.val) = decide (b.val = a.val) := by
    decide
  exact table ⟨i % 8, Nat.mod_lt _ (by omega)⟩ ⟨j % 8, Nat.mod_lt _ (by omega)⟩

theorem push_bit (r : Revolution) (tight : r.Tight) (bit : Bool) (i : Nat) :
    (r.push bit).bitAt i = (r.bitAt i || (bit && decide (i = r.length))) := by
  have grown : ∀ k, (if r.length / 8 = r.bytes.size then r.bytes.push 0 else r.bytes).getD k 0 =
      r.bytes.getD k 0 := by
    intro k
    split
    · by_cases last : k = r.bytes.size <;> simp [Array.getD_eq_getD_getElem?, Array.getElem?_push, last]
    · rfl
  have room : r.length / 8 <
      (if r.length / 8 = r.bytes.size then r.bytes.push 0 else r.bytes).size := by
    have size := tight.size
    split <;> simp <;> omega
  cases bit with
  | false => simp [push, bitAt, grown]
  | true =>
    simp only [push, bitAt, ↓reduceIte, Bool.true_and]
    by_cases same : i / 8 = r.length / 8
    · rw [same, Array.getD_eq_getD_getElem?, Array.getElem?_modify, if_pos rfl,
        Array.getElem?_eq_getElem room]
      have old := grown (r.length / 8)
      rw [Array.getD_eq_getD_getElem?, Array.getElem?_eq_getElem room] at old
      simp only [Option.getD_some, Option.map_some] at old ⊢
      rw [UInt8.toNat_or, Nat.testBit_or, cell_mask_bit, old]
      congr 2
      simp only [eq_iff_iff]
      omega
    · rw [Array.getD_eq_getD_getElem?, Array.getElem?_modify, if_neg (Ne.symm same),
        ← Array.getD_eq_getD_getElem?, grown, decide_eq_false (by rintro rfl; exact same rfl),
        Bool.or_false]

theorem push_tight (r : Revolution) (tight : r.Tight) (bit : Bool) : (r.push bit).Tight := by
  constructor
  · have size := tight.size
    have grown : (if r.length / 8 = r.bytes.size then r.bytes.push 0 else r.bytes).size =
        (r.length + 1 + 7) / 8 := by
      split
      · rw [Array.size_push]
        omega
      · omega
    cases bit with
    | false => exact grown
    | true => simpa [push] using grown
  · intro i behind
    have past : r.length < i := behind
    rw [push_bit r tight, tight.clear i (by omega), decide_eq_false (by omega)]
    simp

theorem push_all_bit (bits : List Bool) (r : Revolution) (tight : r.Tight) (i : Nat) :
    (bits.foldl push r).Tight ∧ (bits.foldl push r).length = r.length + bits.length ∧
      (bits.foldl push r).bitAt i =
        if i < r.length then r.bitAt i else (bits[i - r.length]?).getD false := by
  induction bits generalizing r with
  | nil =>
    refine ⟨tight, rfl, ?_⟩
    split
    · rfl
    · exact tight.clear i (by omega)
  | cons bit bits ih =>
    obtain ⟨kept, length, cell⟩ := ih (r.push bit) (push_tight r tight bit)
    have longer : (r.push bit).length = r.length + 1 := rfl
    refine ⟨kept, by rw [List.foldl_cons, length, longer, List.length_cons]; omega, ?_⟩
    rw [List.foldl_cons, cell, longer, push_bit r tight]
    rcases Nat.lt_trichotomy i r.length with less | same | more
    · rw [if_pos (by omega), if_pos less, decide_eq_false (by omega)]
      simp
    · subst same
      simp [tight.clear]
    · obtain ⟨k, rfl⟩ : ∃ k, i = r.length + 1 + k := ⟨i - (r.length + 1), by omega⟩
      have inRest : r.length + 1 + k - (r.length + 1) = k := by omega
      have inAll : r.length + 1 + k - r.length = k + 1 := by omega
      rw [if_neg (by omega), if_neg (by omega), inRest, inAll, List.getElem?_cons_succ]

theorem empty_tight : empty.Tight := ⟨rfl, fun i _ => by simp [bitAt, empty]⟩

@[simp] theorem of_bits_length (bits : List Bool) : (ofBits bits).length = bits.length := by
  have all := (push_all_bit bits empty empty_tight 0).2.1
  simpa [ofBits, empty] using all

theorem of_bits_cell (bits : List Bool) (i : Nat) : (ofBits bits).cell i = (bits[i]?).getD false := by
  by_cases within : i < bits.length
  · rw [cell_bit _ _ (by simpa using within)]
    have all := (push_all_bit bits empty empty_tight i).2.2
    simpa [ofBits, empty] using all
  · simp [cell, get?, within]

end Revolution

theorem rotate_right_cell (list : List Bool) (shift k : Nat) (nonempty : 0 < list.length) :
    (list.rotateRight shift)[(shift + k) % list.length]? = list[k % list.length]? := by
  unfold List.rotateRight
  dsimp only
  split
  · have one : list.length = 1 := by omega
    simp [one, Nat.mod_one]
  · have small := Nat.mod_lt shift nonempty
    have place := Nat.mod_lt k nonempty
    rw [← Nat.mod_add_mod, ← Nat.add_mod_mod]
    generalize shift % list.length = s at *
    generalize k % list.length = p at *
    by_cases turn : s + p < list.length
    · rw [Nat.mod_eq_of_lt turn, List.getElem?_append_right (by simp; omega),
        List.getElem?_take_of_lt (by simp; omega)]
      simp only [List.length_drop]
      congr 1
      omega
    · rw [Nat.mod_eq_sub_mod (by omega), Nat.mod_eq_of_lt (by omega),
        List.getElem?_append_left (by simp; omega), List.getElem?_drop]
      congr 1
      omega

theorem mfm_cells_append (last : Bool) (front back : List Bool) :
    mfmCells last (front ++ back) = mfmCells last front ++ mfmCells (front.getLastD last) back := by
  induction front generalizing last with
  | nil => rfl
  | cons bit front ih => rw [List.cons_append, mfmCells, mfmCells, ih, List.getLastD_cons]; rfl

theorem mfm_cells_take (last : Bool) (bits : List Bool) (n : Nat) :
    (mfmCells last bits).take (2 * n) = mfmCells last (bits.take n) := by
  induction n generalizing last bits with
  | zero => rfl
  | succ n ih =>
    cases bits with
    | nil => rfl
    | cons bit bits => rw [Nat.mul_succ, mfmCells, List.take_succ_cons, List.take_succ_cons, ih]; rfl

theorem last_cell (head bits : List Bool) :
    ((head ++ mfmCells (head.getLastD false) bits).getLast?).getD false =
      bits.getLastD (head.getLastD false) := by
  cases reversed : bits.reverse with
  | nil =>
    rw [List.reverse_eq_nil_iff.mp reversed]
    simp [mfmCells]
  | cons bit front =>
    rw [List.reverse_eq_cons_iff.mp reversed, mfm_cells_append]
    simp [mfmCells]

namespace Emission

theorem put_all (e : Emission) (bits : List Bool) :
    bits.foldl put e = { e with cells := e.cells ++ bits.toArray } := by
  induction bits generalizing e with
  | nil => simp
  | cons bit bits ih => rw [List.foldl_cons, ih, put]; simp

theorem clock_all (e : Emission) (bits : List Bool) :
    bits.foldl clock e = { e with cells := e.cells ++ (mfmCells e.last bits).toArray } := by
  induction bits generalizing e with
  | nil => simp [mfmCells]
  | cons bit bits ih =>
    have last : (e.clock bit).last = bit := by simp [clock, Emission.last]
    rw [List.foldl_cons, ih, last, clock, mfmCells]
    simp

theorem write_clocked {e : Emission} {encoding : Encoding} {bits : List Bool}
    (clocked : encoding ≠ .raw) : e.write encoding bits = bits.foldl clock e := by
  cases encoding with
  | raw => exact absurd rfl clocked
  | mfm | even | odd | evenOdd | evenOddLongs => rfl

-- The cells emitted so far: a head as it is, and data bits after it, each with its clock.
structure Lays (e : Emission) (head bits : List Bool) : Prop where
  cells : e.cells.toList = head ++ mfmCells (head.getLastD false) bits

variable {e : Emission} {head bits : List Bool}

theorem lays_whole (e : Emission) : e.Lays e.cells.toList [] := ⟨by simp [mfmCells]⟩

theorem lays_head (total offset n value : Nat) :
    ((start total offset).word .raw n value).Lays (Bits.ofNat n value) [] := by
  constructor
  simp [word, write, Encoding.wordBits, put_all, start, mfmCells]

theorem head_start (total offset n value : Nat) :
    ((start total offset).word .raw n value).total = total ∧
      ((start total offset).word .raw n value).offset = offset := by
  simp [word, write, put_all, start]

theorem write_more (lays : e.Lays head bits) (encoding : Encoding) (clocked : encoding ≠ .raw)
    (more : List Bool) :
    (e.write encoding more).Lays head (bits ++ more) ∧
      (e.write encoding more).total = e.total ∧ (e.write encoding more).offset = e.offset := by
  have last : e.last = bits.getLastD (head.getLastD false) := by
    rw [Emission.last, ← last_cell, ← lays.cells, Array.getLast?_toList]
  rw [write_clocked clocked, clock_all, last]
  refine ⟨⟨?_⟩, rfl, rfl⟩
  simp [lays.cells, mfm_cells_append]

theorem write_raw (lays : e.Lays head []) (more : List Bool) :
    (e.write .raw more).Lays (head ++ more) [] ∧
      (e.write .raw more).total = e.total ∧ (e.write .raw more).offset = e.offset := by
  have cells := lays.cells
  have folded : e.write .raw more = more.foldl put e := rfl
  rw [folded, put_all]
  exact ⟨⟨by simpa [mfmCells] using cells⟩, rfl, rfl⟩

theorem lays_size (lays : e.Lays head bits) : e.size = head.length + 2 * bits.length := by
  rw [Emission.size, ← Array.length_toList, lays.cells]
  simp

-- How far a place lies behind the offset, counted forward within one turn.
theorem distance (e : Emission) (nonempty : 0 < e.total) (n : Nat) :
    ∃ d, d < e.total ∧ n % e.total = (e.offset + d) % e.total := by
  have small := Nat.mod_lt e.offset nonempty
  have split := Nat.div_add_mod e.offset e.total
  refine ⟨(n + (e.total - e.offset % e.total)) % e.total, Nat.mod_lt _ nonempty, ?_⟩
  have around : e.offset + (n + (e.total - e.offset % e.total)) =
      n + e.total * (e.offset / e.total + 1) := by
    rw [Nat.mul_add]
    omega
  rw [Nat.add_mod_mod, around, Nat.add_mul_mod_self_left]

def gapBits (e : Emission) : Nat := (e.total - e.size + 1) / 2

theorem filled_cells (lays : e.Lays head bits) :
    e.filled.toList =
      (head ++ mfmCells (head.getLastD false) (bits ++ List.replicate e.gapBits false)).take e.total := by
  have zeros := (write_more lays .mfm (by decide) (List.replicate e.gapBits false)).1
  rw [← zeros.cells, filled, gapBits]
  simp

@[simp] theorem filled_size (e : Emission) : e.filled.size = e.total := by
  rw [← Array.length_toList, filled_cells e.lays_whole]
  simp [gapBits, size]
  omega

@[simp] theorem to_revolution_length (e : Emission) : e.toRevolution.length = e.total := by
  rw [toRevolution, Revolution.of_bits_length]
  simp only [List.rotateRight, Array.length_toList, filled_size]
  split
  · simp
  · have nonempty : 0 < e.total := by omega
    have small := Nat.mod_lt e.offset nonempty
    simp

theorem replay_placed (e : Emission) (nonempty : 0 < e.total) (k : Nat) :
    e.toRevolution.replay (e.offset + k) = (e.filled[k % e.total]?).getD false := by
  have rotated := rotate_right_cell e.filled.toList e.offset k (by simpa using nonempty)
  rw [Array.length_toList, filled_size] at rotated
  rw [Revolution.replay, to_revolution_length, toRevolution, Revolution.of_bits_cell, rotated,
    Array.getElem?_toList]

theorem cell_placed (e : Emission) {k : Nat} (emitted : k < e.size) (kept : k < e.total) :
    e.cells[k]? = some (e.toRevolution.cell ((e.offset + k) % e.total)) := by
  have same : e.filled[k]? = e.cells[k]? := by
    rw [← Array.getElem?_toList, filled_cells e.lays_whole, List.getElem?_take_of_lt kept,
      List.getElem?_append_left (by rwa [Array.length_toList]), Array.getElem?_toList]
  have placed := replay_placed e (Nat.zero_lt_of_lt kept) k
  rw [Revolution.replay, to_revolution_length, Nat.mod_eq_of_lt kept, same] at placed
  rw [placed, Array.getElem?_eq_getElem emitted]
  rfl

theorem stretch_turned (e : Emission) (nonempty : 0 < e.total) (j k : Nat)
    (within : j + k ≤ 2 * e.total) :
    e.toRevolution.stretch (e.offset + j) k =
      ((e.filled.toList ++ e.filled.toList).drop j).take k := by
  have size : e.filled.toList.length = e.total := by simp
  apply List.ext_getElem
  · simp
    omega
  · intro i low high
    have inside : i < k := by simpa using low
    have place := replay_placed e nonempty (j + i)
    rw [Array.getElem?_eq_getElem (by simpa using Nat.mod_lt _ nonempty), Option.getD_some,
      ← Array.getElem_toList] at place
    simp only [Revolution.stretch, List.getElem_map, List.getElem_range, Nat.add_assoc, place,
      List.getElem_take, List.getElem_drop]
    by_cases first : j + i < e.total
    · rw [List.getElem_append_left (by omega)]
      simp only [Nat.mod_eq_of_lt first]
    · rw [List.getElem_append_right (by omega)]
      simp only [size, Nat.mod_eq_sub_mod (Nat.le_of_not_lt first),
        Nat.mod_eq_of_lt (show j + i - e.total < e.total by omega)]

theorem stretch_placed (e : Emission) (j k : Nat) (within : j + k ≤ e.total) :
    e.toRevolution.stretch (e.offset + j) k = (e.filled.toList.drop j).take k := by
  have size : e.filled.toList.length = e.total := by simp
  rcases Nat.eq_zero_or_pos e.total with empty | nonempty
  · have zero : k = 0 := by omega
    simp [zero, Revolution.stretch]
  · rw [stretch_turned e nonempty j k (by omega), List.drop_append_of_le_length (by omega),
      List.take_append_of_le_length (by simp; omega)]

theorem head_placed (lays : e.Lays head bits) (fits : head.length ≤ e.total) :
    e.toRevolution.stretch e.offset head.length = head := by
  have placed := stretch_placed e 0 head.length (by omega)
  rw [Nat.add_zero] at placed
  rw [placed, filled_cells lays]
  simp [List.take_take, fits]

theorem data_placed (lays : e.Lays head bits) (n : Nat) (fits : head.length + 2 * n ≤ e.total) :
    e.toRevolution.dataBits (e.offset + head.length) n =
      (bits ++ List.replicate e.gapBits false).take n := by
  rw [← Revolution.data_cells_stretch, stretch_placed e head.length (2 * n) fits, filled_cells lays,
    List.drop_take, List.drop_left, List.take_take, Nat.min_eq_left (by omega), mfm_cells_take,
    data_cells_mfm_cells]

end Emission

end FloppyTrack
