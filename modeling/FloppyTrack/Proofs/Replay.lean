import FloppyTrack.Cursor
import FloppyTrack.Proofs.Bits
import Mathlib.Data.Nat.ModEq

set_option autoImplicit false

namespace FloppyTrack

theorem turned_back {place bits n length : Nat} (small : place < length)
    (same : (place + bits) % length = n % length) : (place : Int) = ((n : Int) - bits) % length := by
  have turn : ((place : Int) + bits) % length = (n : Int) % length := by exact_mod_cast same
  have back : (place : Int) = place + bits - bits := by omega
  rw [← Int.emod_eq_of_lt (Int.natCast_nonneg _) (Int.ofNat_lt.mpr small), back, ← Int.emod_sub_emod,
    turn, Int.emod_sub_emod]

namespace Revolution

def replay (r : Revolution) (k : Nat) : Bool := r.cell (k % r.length)

def stretch (r : Revolution) (n k : Nat) : List Bool :=
  (List.range k).map fun i => r.replay (n + i)

-- The stretch starts with a clock, so the data cells are those at odd distances.
def dataBits (r : Revolution) (n k : Nat) : List Bool :=
  (List.range k).map fun i => r.replay (n + 2 * i + 1)

def latest (r : Revolution) : Nat → UInt32
  | 0 => 0
  | n + 1 => r.latest n <<< 1 ||| (r.replay n).toUInt32

def byteAt (r : Revolution) (n : Nat) : UInt8 := dataByte (r.latest (n + 16)).toUInt16

def octets (r : Revolution) (n : Nat) : Nat → List UInt8
  | 0 => []
  | k + 1 => (r.latest (n + 8)).toUInt8 :: r.octets (n + 8) k

@[simp] theorem stretch_length (r : Revolution) (n k : Nat) : (r.stretch n k).length = k := by
  simp [stretch]

@[simp] theorem data_bits_length (r : Revolution) (n k : Nat) : (r.dataBits n k).length = k := by
  simp [dataBits]

@[simp] theorem octets_length (r : Revolution) (n k : Nat) : (r.octets n k).length = k := by
  induction k generalizing n with
  | zero => rfl
  | succ k ih => simp [octets, ih]

theorem replay_congr (r : Revolution) (j k : Nat) (same : j % r.length = k % r.length) (i : Nat) :
    r.replay (j + i) = r.replay (k + i) := by
  rw [replay, replay, Nat.add_mod, same, ← Nat.add_mod]

theorem stretch_congr (r : Revolution) (j k n : Nat) (same : j % r.length = k % r.length) :
    r.stretch j n = r.stretch k n := by
  simp only [stretch, replay_congr r j k same]

theorem data_bits_congr (r : Revolution) (j k n : Nat) (same : j % r.length = k % r.length) :
    r.dataBits j n = r.dataBits k n := by
  simp only [dataBits, Nat.add_assoc, replay_congr r j k same]

theorem stretch_add (r : Revolution) (n j k : Nat) :
    r.stretch n (j + k) = r.stretch n j ++ r.stretch (n + j) k := by
  simp [stretch, List.range_add, Nat.add_assoc, Function.comp_def]

theorem stretch_part {r : Revolution} {n : Nat} {front middle back : List Bool}
    (shown : r.stretch n (front ++ middle ++ back).length = front ++ middle ++ back) :
    r.stretch (n + front.length) middle.length = middle := by
  rw [List.length_append, List.length_append, stretch_add, stretch_add] at shown
  exact (List.append_inj (List.append_inj shown (by simp)).1 (by simp)).2

theorem stretch_infix (r : Revolution) {n k i j : Nat} (late : n ≤ i) (soon : i + j ≤ n + k) :
    r.stretch i j <:+: r.stretch n k := by
  obtain ⟨before, rfl⟩ := Nat.exists_eq_add_of_le late
  obtain ⟨after, rfl⟩ : ∃ after, k = before + j + after := ⟨k - (before + j), by omega⟩
  rw [stretch_add, stretch_add]
  exact List.infix_append _ _ _

theorem data_bits_add (r : Revolution) (n j k : Nat) :
    r.dataBits n (j + k) = r.dataBits n j ++ r.dataBits (n + 2 * j) k := by
  simp [dataBits, List.range_add, Nat.add_assoc, Nat.mul_add, Function.comp_def]

theorem stretch_succ (r : Revolution) (n k : Nat) :
    r.stretch n (k + 1) = r.replay n :: r.stretch (n + 1) k := by
  rw [Nat.add_comm k 1, stretch_add]
  rfl

theorem stretch_cell {r : Revolution} {n k i : Nat} {cells : List Bool} {bit : Bool}
    (shown : r.stretch n k = cells) (cell : cells[i]? = some bit) : r.replay (n + i) = bit := by
  have inside : i < k := by
    rw [← r.stretch_length n k, shown]
    exact (List.getElem?_eq_some_iff.mp cell).1
  rw [← shown] at cell
  simpa [stretch, inside] using cell

theorem data_bits_cell {r : Revolution} {n k i : Nat} {bits : List Bool} {bit : Bool}
    (shown : r.dataBits n k = bits) (cell : bits[i]? = some bit) :
    r.replay (n + 2 * i + 1) = bit := by
  have inside : i < k := by
    rw [← r.data_bits_length n k, shown]
    exact (List.getElem?_eq_some_iff.mp cell).1
  rw [← shown] at cell
  simpa [dataBits, inside] using cell

theorem data_cells_stretch (r : Revolution) (n k : Nat) :
    dataCells (r.stretch n (2 * k)) = r.dataBits n k := by
  induction k generalizing n with
  | zero => rfl
  | succ k ih =>
    have two : 2 * (k + 1) = 2 * k + 1 + 1 := by omega
    rw [two, stretch_succ, stretch_succ, dataCells, ih,
      Nat.add_comm k 1, data_bits_add]
    rfl

theorem latest_bit (r : Revolution) (n i : Nat) :
    (r.latest n).toNat.testBit i = (decide (i < 32 ∧ i < n) && r.replay (n - 1 - i)) := by
  induction n generalizing i with
  | zero => simp [latest]
  | succ n ih =>
    have newest : (r.replay n).toUInt32.toNat = (r.replay n).toNat := by
      cases r.replay n <;> rfl
    rw [latest, UInt32.toNat_or, Nat.testBit_or, UInt32.toNat_shiftLeft, newest]
    cases i with
    | zero => cases bit : r.replay n <;> simp [bit]
    | succ i =>
      have high : (r.replay n).toNat.testBit (i + 1) = false := by
        cases r.replay n <;> simp [Nat.testBit_succ]
      rw [high, Bool.or_false, show (1 : UInt32).toNat % 32 = 1 from rfl, Nat.testBit_mod_two_pow,
        Nat.testBit_shiftLeft]
      by_cases inside : i + 1 < 32
      · simp [inside, ih, Nat.lt_of_succ_lt inside, show n - (i + 1) = n - 1 - i by omega]
      · simp [inside]

-- A word shows the latest cells only as far as cells were read; before that it is clear.
theorem latest_cells (r : Revolution) (n k : Nat) (fits : k ≤ 32) :
    Bits.ofNat k (r.latest (n + k)).toNat = r.stretch n k := by
  apply List.ext_getElem
  · simp
  · intro i low high
    have within : i < k := by simpa using low
    rw [Bits.of_nat_get, latest_bit, decide_eq_true (by omega)]
    have place : n + k - 1 - (k - 1 - i) = n + i := by omega
    simp [stretch, place]

-- The whole word: clear cells first, as if they stood before the first one.
theorem latest_history (r : Revolution) (n : Nat) :
    Bits.ofNat 32 (r.latest n).toNat = (List.replicate 32 false ++ r.stretch 0 n).drop n := by
  apply List.ext_getElem
  · rw [Bits.of_nat_length, List.length_drop, List.length_append, List.length_replicate,
      stretch_length, Nat.add_sub_cancel]
  · intro i low high
    have within : i < 32 := by simpa using low
    rw [Bits.of_nat_get, latest_bit, List.getElem_drop]
    by_cases unread : n + i < 32
    · rw [List.getElem_append_left (by simpa using unread), List.getElem_replicate,
        decide_eq_false (by omega), Bool.false_and]
    · rw [List.getElem_append_right (by simpa using Nat.le_of_not_lt unread),
        decide_eq_true (by omega), Bool.true_and]
      have place : n - 1 - (32 - 1 - i) = n + i - 32 := by omega
      simp [stretch, place]

end Revolution

namespace Cursor

-- The plain count of the cells read: whole turns, and the cells since the last pulse.
def read (c : Cursor) : Nat := (c.turn - 1) * c.source.length + c.sincePulse

-- The counters of a cursor behind the `n`-th cell. Right behind the last cell of a turn the position is
-- back at the pulse, while the turn, the cells since the pulse and the length wait for the next read.
structure Stands (c : Cursor) (r : Revolution) (R n : Nat) : Prop where
  source : c.source = r
  revolutions : c.revolutions = R
  within : n ≤ R * r.length
  position : c.position = n % r.length
  turn : c.turn = if n = 0 then 0 else (n - 1) / r.length + 1
  sincePulse : c.sincePulse = if n = 0 then 0 else (n - 1) % r.length + 1
  word : c.word = r.latest n
  measured : c.measured = 0 ∨ c.measured = r.length

-- A read that finds no cell left notes the length and changes nothing else.
theorem next_keeps (c : Cursor) (unread : c.next.1 = none) :
    c.next.2 = { c with measured := c.next.2.measured } := by
  rcases c.next_cases with ⟨-, step⟩ | ⟨-, -, -, step⟩ | ⟨_, -, -, step⟩ | ⟨_, -, step⟩ <;>
    rw [step] at unread ⊢
  · rfl
  · cases unread
  · cases unread

variable {c : Cursor} {r : Revolution} {R n : Nat}

theorem start_stands (r : Revolution) (R : Nat) : (start r R).Stands r R 0 :=
  ⟨rfl, rfl, Nat.zero_le _, (Nat.zero_mod _).symm, rfl, rfl, rfl, .inl rfl⟩

theorem behind_pulse {n length : Nat} (cells : 0 < length) (begun : n ≠ 0)
    (pulse : n % length = 0) : (n - 1) / length + 1 = n / length ∧ (n - 1) % length + 1 = length := by
  have whole := Nat.div_add_mod n length
  obtain ⟨turn, turns⟩ : ∃ turn, n / length = turn + 1 := Nat.exists_eq_succ_of_ne_zero (by
    intro unbegun
    rw [unbegun, Nat.mul_zero] at whole
    omega)
  rw [turns, Nat.mul_add] at whole
  have parts := (Nat.div_mod_unique (a := n - 1) cells).mpr
    ⟨show length - 1 + length * turn = n - 1 by omega, by omega⟩
  rw [parts.1, parts.2, turns]
  omega

theorem within_turn {n length : Nat} (cells : 0 < length) (inside : n % length ≠ 0) :
    (n - 1) / length = n / length ∧ (n - 1) % length + 1 = n % length := by
  have whole := Nat.div_add_mod n length
  have small := Nat.mod_lt n cells
  have parts := (Nat.div_mod_unique (a := n - 1) cells).mpr
    ⟨show n % length - 1 + length * (n / length) = n - 1 by omega, by omega⟩
  rw [parts.1, parts.2]
  omega

namespace Stands

theorem read (stands : c.Stands r R n) : c.read = n := by
  rw [Cursor.read, stands.turn, stands.sincePulse, stands.source]
  split
  · simp [*]
  · have parts := Nat.div_add_mod' (n - 1) r.length
    rw [Nat.add_sub_cancel]
    omega

theorem some_cells (stands : c.Stands r R n) (begun : n ≠ 0) : 0 < r.length :=
  Nat.pos_of_mul_pos_left (Nat.lt_of_lt_of_le (Nat.pos_of_ne_zero begun) stands.within)

theorem remaining (stands : c.Stands r R n) : c.remaining = R * r.length - n := by
  rw [Cursor.remaining, stands.revolutions, stands.turn, stands.source, stands.position]
  split
  · simp [*]
  · rename_i begun
    have cells := stands.some_cells begun
    have left := left_of_turn (Nat.mod_lt (n - 1) cells)
    have place : ((n - 1) % r.length + 1) % r.length = n % r.length := by
      rw [Nat.mod_add_mod, Nat.sub_add_cancel (by omega)]
    have parts := Nat.div_add_mod' (n - 1) r.length
    have turns : (n - 1) / r.length < R :=
      (Nat.div_lt_iff_lt_mul cells).mpr (by have := stands.within; omega)
    have room := Nat.mul_le_mul_right r.length (Nat.succ_le_of_lt turns)
    have small := Nat.mod_lt (n - 1) cells
    rw [place] at left
    rw [Nat.succ_mul] at room
    rw [Nat.sub_mul, Nat.succ_mul]
    omega

theorem restart_crc (stands : c.Stands r R n) : c.restartCrc.Stands r R n :=
  ⟨stands.source, stands.revolutions, stands.within, stands.position, stands.turn, stands.sincePulse,
    stands.word, stands.measured⟩

theorem since_pulse (stands : c.Stands r R n) : c.sincePulse % r.length = n % r.length := by
  rw [stands.sincePulse]
  split
  · simp [*]
  · rw [Nat.mod_add_mod, Nat.sub_add_cancel (by omega)]

theorem since_pulse_le (stands : c.Stands r R n) : c.sincePulse ≤ r.length := by
  rw [stands.sincePulse]
  split
  · exact Nat.zero_le _
  · exact Nat.mod_lt _ (stands.some_cells ‹_›)

theorem start_of_last_same {d : Cursor} {R' : Nat} (stands : c.Stands r R n) (other : d.Stands r R' n)
    (bits : Nat) : c.startOfLast bits = d.startOfLast bits := by
  simp only [startOfLast, stands.source, stands.sincePulse, other.source, other.sincePulse]

-- Also where fewer than `bits` cells were read.
theorem start_of_last_turn (stands : c.Stands r R n) (cells : 0 < r.length) (bits : Nat) :
    c.startOfLast bits < r.length ∧ (c.startOfLast bits + bits) % r.length = n % r.length := by
  have small := Nat.mod_lt bits cells
  have back : c.sincePulse + r.length - bits % r.length + bits =
      c.sincePulse + r.length * (bits / r.length + 1) := by
    have split := Nat.div_add_mod bits r.length
    rw [Nat.mul_add]
    omega
  rw [Cursor.startOfLast, stands.source, Nat.max_eq_left cells]
  refine ⟨Nat.mod_lt _ cells, ?_⟩
  rw [Nat.mod_add_mod, back, Nat.add_mul_mod_self_left, stands.since_pulse]

theorem start_of_last_back (stands : c.Stands r R n) (cells : 0 < r.length) (bits : Nat) :
    (c.startOfLast bits : Int) = ((n : Int) - bits) % r.length := by
  obtain ⟨small, same⟩ := stands.start_of_last_turn cells bits
  exact turned_back small same

theorem start_of_last (stands : c.Stands r R n) (cells : 0 < r.length) (bits : Nat) (read : bits ≤ n) :
    c.startOfLast bits = (n - bits) % r.length := by
  obtain ⟨small, same⟩ := stands.start_of_last_turn cells bits
  have behind : (c.startOfLast bits + bits) % r.length = (n - bits + bits) % r.length := by
    rw [same, Nat.sub_add_cancel read]
  rw [← Nat.mod_eq_of_lt small]
  exact Nat.ModEq.add_right_cancel' bits behind

-- At a pulse the turns that were begun are over, and the last of them is known to its end.
theorem at_pulse (stands : c.Stands r R n) (cells : 0 < r.length) (pulse : n % r.length = 0) :
    c.turn = n / r.length ∧
      c.atPulse.measured = if 0 < n then r.length else c.measured := by
  change _ ∧ (if 0 < c.turn then c.sincePulse else c.measured) = _
  rw [stands.turn, stands.sincePulse]
  by_cases begun : n = 0
  · subst begun
    exact ⟨(Nat.zero_div _).symm, rfl⟩
  · obtain ⟨turns, whole⟩ := behind_pulse cells begun pulse
    rw [if_neg begun, if_neg begun, if_pos (Nat.succ_pos _), if_pos (Nat.pos_of_ne_zero begun)]
    exact ⟨turns, whole⟩

theorem at_pulse_measured (stands : c.Stands r R n) (cells : 0 < r.length)
    (pulse : n % r.length = 0) : c.atPulse.measured = 0 ∨ c.atPulse.measured = r.length := by
  rw [(stands.at_pulse cells pulse).2]
  split
  · exact .inr rfl
  · exact stands.measured

-- What reading a cell comes to in a turn that was begun.
theorem take_stands {cells : 0 < c.source.length} (source : c.source = r)
    (revolutions : c.revolutions = R) (more : n < R * r.length) (position : c.position = n % r.length)
    (turn : c.turn = n / r.length + 1) (sincePulse : c.sincePulse = n % r.length)
    (word : c.word = r.latest n) (measured : c.measured = 0 ∨ c.measured = r.length) :
    (c.take cells).1 = some (r.replay n) ∧ (c.take cells).2.Stands r R (n + 1) := by
  subst source
  have bit : c.source.cell c.position = c.source.replay n := by rw [position, Revolution.replay]
  have ahead : (c.position + 1) % c.source.length = (n + 1) % c.source.length := by
    rw [position, Nat.mod_add_mod]
  have latest : c.word <<< 1 ||| (c.source.cell c.position).toUInt32 = c.source.latest (n + 1) := by
    rw [bit, word, Revolution.latest]
  exact ⟨congrArg some bit, rfl, revolutions, more, ahead, turn, congrArg (· + 1) sincePulse, latest,
    measured⟩

theorem next_more (stands : c.Stands r R n) (more : n < R * r.length) :
    c.next.1 = some (r.replay n) ∧ c.next.2.Stands r R (n + 1) := by
  have whole : 0 < r.length := Nat.pos_of_mul_pos_left (Nat.lt_of_le_of_lt (Nat.zero_le n) more)
  have early : n / r.length < R := (Nat.div_lt_iff_lt_mul whole).mpr more
  rcases c.next_cases with ⟨empty, -⟩ | ⟨-, pulse, spent, -⟩ | ⟨cells, pulse, -, step⟩ |
    ⟨cells, inside, step⟩
  · rw [stands.source] at empty
    omega
  · rw [stands.position] at pulse
    rw [stands.revolutions, (stands.at_pulse whole pulse).1] at spent
    omega
  · rw [stands.position] at pulse
    rw [step]
    exact take_stands stands.source stands.revolutions more stands.position
      (congrArg (· + 1) (stands.at_pulse whole pulse).1) pulse.symm stands.word
      (stands.at_pulse_measured whole pulse)
  · rw [stands.position] at inside
    have begun : n ≠ 0 := by
      rintro rfl
      exact inside (Nat.zero_mod _)
    obtain ⟨turns, cell⟩ := within_turn whole inside
    have turn := stands.turn
    have sincePulse := stands.sincePulse
    rw [if_neg begun, turns] at turn
    rw [if_neg begun, cell] at sincePulse
    rw [step]
    exact take_stands stands.source stands.revolutions more stands.position turn sincePulse
      stands.word stands.measured

-- With no cell left a read notes the length and nothing else.
theorem next_spent (stands : c.Stands r R (R * r.length)) :
    c.next.1 = none ∧ c.next.2.Stands r R (R * r.length) := by
  have pulse : c.position = 0 := by rw [stands.position, Nat.mul_mod_left]
  rcases c.next_cases with ⟨-, step⟩ | ⟨cells, -, -, step⟩ | ⟨cells, -, more, -⟩ |
    ⟨-, inside, -⟩
  · rw [step]
    exact ⟨rfl, stands⟩
  · rw [stands.source] at cells
    rw [step]
    exact ⟨rfl, stands.source, stands.revolutions, stands.within, stands.position, stands.turn,
      stands.sincePulse, stands.word, stands.at_pulse_measured cells (Nat.mul_mod_left _ _)⟩
  · rw [stands.source] at cells
    rw [stands.revolutions, (stands.at_pulse cells (Nat.mul_mod_left _ _)).1,
      Nat.mul_div_cancel _ cells] at more
    exact absurd more (Nat.lt_irrefl R)
  · exact absurd pulse inside

theorem spent_iff (stands : c.Stands r R n) (cells : 0 < r.length) :
    c.isSpent = true ↔ n = R * r.length := by
  rw [Cursor.isSpent, Bool.and_eq_true, beq_iff_eq, decide_eq_true_iff, stands.position,
    stands.revolutions]
  constructor
  · rintro ⟨pulse, turns⟩
    rw [(stands.at_pulse cells pulse).1] at turns
    have all := Nat.mul_le_mul_right r.length turns
    rw [Nat.div_mul_cancel (Nat.dvd_of_mod_eq_zero pulse)] at all
    exact Nat.le_antisymm stands.within all
  · rintro rfl
    rw [(stands.at_pulse cells (Nat.mul_mod_left _ _)).1, Nat.mul_div_cancel _ cells]
    exact ⟨Nat.mul_mod_left _ _, Nat.le_refl R⟩

theorem measured_next (stands : c.Stands r R n) :
    c.next.2.measured = if 0 < n ∧ n % r.length = 0 then r.length else c.measured := by
  have pulsed : 0 < r.length → n % r.length = 0 →
      c.atPulse.measured = if 0 < n ∧ n % r.length = 0 then r.length else c.measured := by
    intro cells pulse
    rw [(stands.at_pulse cells pulse).2]
    simp [pulse]
  rcases c.next_cases with ⟨empty, step⟩ | ⟨cells, pulse, -, step⟩ | ⟨cells, pulse, -, step⟩ |
    ⟨_, inside, step⟩ <;> rw [step]
  · have unbegun : ¬ 0 < n := fun begun => by
      have cells := stands.some_cells (Nat.ne_of_gt begun)
      rw [stands.source] at empty
      omega
    rw [if_neg fun begun => unbegun begun.1]
  · rw [stands.source] at cells
    rw [stands.position] at pulse
    exact pulsed cells pulse
  · rw [stands.source] at cells
    rw [stands.position] at pulse
    exact pulsed cells pulse
  · rw [stands.position] at inside
    rw [if_neg fun pulse => inside pulse.2]
    rfl

theorem next_measures (stands : c.Stands r R n) (begun : 0 < n) (pulse : n % r.length = 0) :
    c.next.2.measured = r.length := by
  rw [stands.measured_next, if_pos ⟨begun, pulse⟩]

theorem advance_within (k : Nat) (stands : c.Stands r R n) (room : n + k ≤ R * r.length) :
    (c.advance k).1 = true ∧ (c.advance k).2.Stands r R (n + k) := by
  induction k generalizing c n with
  | zero => exact ⟨rfl, stands⟩
  | succ k ih =>
    have step := stands.next_more (by omega)
    have rest := ih step.2 (by omega)
    have place : n + 1 + k = n + (k + 1) := by omega
    rw [place] at rest
    unfold Cursor.advance
    split <;> rename_i read
    · rw [read] at step
      cases step.1
    · rwa [read] at rest

theorem advance_beyond (k : Nat) (stands : c.Stands r R n) (short : R * r.length < n + k) :
    (c.advance k).1 = false ∧ (c.advance k).2.Stands r R (R * r.length) := by
  induction k generalizing c n with
  | zero => exact absurd stands.within (by omega)
  | succ k ih =>
    unfold Cursor.advance
    by_cases more : n < R * r.length
    · have step := stands.next_more more
      have rest := ih step.2 (by omega)
      split <;> rename_i read
      · rw [read] at step
        cases step.1
      · rwa [read] at rest
    · have last : n = R * r.length := Nat.le_antisymm stands.within (by omega)
      subst last
      have step := stands.next_spent
      split <;> rename_i read <;> rw [read] at step
      · exact ⟨rfl, step.2⟩
      · cases step.1

theorem at_every_place (within : n ≤ R * r.length) : ∃ c : Cursor, c.Stands r R n := by
  have ahead := ((start_stands r R).advance_within n (by omega)).2
  rw [Nat.zero_add] at ahead
  exact ⟨_, ahead⟩

theorem bits_within (k : Nat) (stands : c.Stands r R n) (room : n + k ≤ R * r.length) :
    (c.bits k).1 = some (r.latest (n + k)) ∧ (c.bits k).2.Stands r R (n + k) := by
  have ahead := stands.advance_within k room
  unfold Cursor.bits
  split <;> rename_i read <;> rw [read] at ahead
  · cases ahead.1
  · exact ⟨congrArg some ahead.2.word, ahead.2⟩

theorem bits_beyond (k : Nat) (stands : c.Stands r R n) (short : R * r.length < n + k) :
    (c.bits k).1 = none ∧ (c.bits k).2.Stands r R (R * r.length) := by
  have ahead := stands.advance_beyond k short
  unfold Cursor.bits
  split <;> rename_i read <;> rw [read] at ahead
  · exact ⟨rfl, ahead.2⟩
  · cases ahead.1

theorem bytes_within (k : Nat) (stands : c.Stands r R n) (room : n + 8 * k ≤ R * r.length) :
    (c.bytes k).1 = r.octets n k ∧ (c.bytes k).2.Stands r R (n + 8 * k) := by
  induction k generalizing c n with
  | zero => exact ⟨rfl, stands⟩
  | succ k ih =>
    have first := stands.bits_within 8 (by omega)
    have rest := ih first.2 (by omega)
    have place : n + 8 + 8 * k = n + 8 * (k + 1) := by omega
    rw [place] at rest
    unfold Cursor.bytes
    split <;> rename_i word d read <;> rw [read] at first rest
    · cases first.1
    · cases Option.some.inj first.1
      exact ⟨congrArg (_ :: ·) rest.1, rest.2⟩

theorem bytes_beyond (k : Nat) (stands : c.Stands r R n) (short : R * r.length < n + 8 * k) :
    (c.bytes k).1.length < k ∧ (c.bytes k).2.Stands r R (R * r.length) := by
  induction k generalizing c n with
  | zero => exact absurd stands.within (by omega)
  | succ k ih =>
    unfold Cursor.bytes
    by_cases room : n + 8 ≤ R * r.length
    · have first := stands.bits_within 8 room
      have rest := ih first.2 (by omega)
      split <;> rename_i read <;> rw [read] at first rest
      · cases first.1
      · exact ⟨Nat.succ_lt_succ rest.1, rest.2⟩
    · have first := stands.bits_beyond 8 (by omega)
      split <;> rename_i read <;> rw [read] at first
      · exact ⟨Nat.succ_pos k, first.2⟩
      · cases first.1

end Stands

end Cursor

end FloppyTrack
