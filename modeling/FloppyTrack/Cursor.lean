import FloppyTrack.Checksum
import FloppyTrack.Revolution

set_option autoImplicit false

namespace FloppyTrack

structure Cursor where
  source : Revolution
  revolutions : Nat
  -- The cell that is read next, counted from the index pulse.
  position : Nat
  -- Turns begun. The pulse counts only when the cell behind it is read.
  turn : Nat
  -- The latest 32 cells, newest in the lowest bit.
  word : UInt32
  -- Cells read since the last index pulse.
  sincePulse : Nat
  -- Length of the turn last completed, zero before that.
  measured : Nat
  crc : UInt16
  -- Cells read since the last byte that entered the CRC.
  crcPhase : Nat
  placed : position = 0 ∨ position < source.length
deriving DecidableEq, Repr

namespace Cursor

def defaultRevolutions : Nat := 3

def start (source : Revolution) (revolutions : Nat) : Cursor where
  source
  revolutions
  position := 0
  turn := 0
  word := 0
  sincePulse := 0
  measured := 0
  crc := Crc16.initial
  crcPhase := 0
  placed := .inl rfl

def reset (c : Cursor) : Cursor := start c.source c.revolutions

def isSpent (c : Cursor) : Bool := c.position == 0 && decide (c.revolutions ≤ c.turn)

-- Where the latest `bits` cells start, counted from the index pulse.
def startOfLast (c : Cursor) (bits : Nat) : Nat :=
  let length := max c.source.length 1
  (c.sincePulse + length - bits % length) % length

def restartCrc (c : Cursor) : Cursor :=
  { c with crc := Crc16.initial, crcPhase := 0 }

@[inline]
def atPulse (c : Cursor) : Cursor :=
  { c with measured := if 0 < c.turn then c.sincePulse else c.measured }

@[inline]
def beginTurn (c : Cursor) : Cursor :=
  { c with turn := c.turn + 1, sincePulse := 0 }

-- Every sixteen cells make a byte of the CRC.
@[inline]
def shiftIn (c : Cursor) (bit : Bool) : Cursor :=
  let word := c.word <<< 1 ||| bit.toUInt32
  { c with
    word
    crc := if c.crcPhase + 1 = 16 then Crc16.byte c.crc (dataByte word.toUInt16) else c.crc
    crcPhase := if c.crcPhase + 1 = 16 then 0 else c.crcPhase + 1 }

@[inline]
def moveOn (c : Cursor) (cells : 0 < c.source.length) : Cursor :=
  { c with
    position := (c.position + 1) % c.source.length
    sincePulse := c.sincePulse + 1
    placed := .inr (Nat.mod_lt _ cells) }

@[inline]
def take (c : Cursor) (cells : 0 < c.source.length) : Option Bool × Cursor :=
  let bit := c.source.cell c.position
  (some bit, (c.moveOn cells).shiftIn bit)

@[inline]
def next (c : Cursor) : Option Bool × Cursor :=
  if cells : 0 < c.source.length then
    if c.position = 0 then
      if c.revolutions ≤ c.turn then (none, c.atPulse) else c.atPulse.beginTurn.take cells
    else c.take cells
  else (none, c)

-- Reads `n` cells, and tells whether there were that many.
def advance : Nat → Cursor → Bool × Cursor
  | 0, c => (true, c)
  | n + 1, c =>
    match c.next with
    | (none, c) => (false, c)
    | (some _, c) => advance n c

-- The latest cells after `n` more.
def bits (n : Nat) (c : Cursor) : Option UInt32 × Cursor :=
  match c.advance n with
  | (false, c) => (none, c)
  | (true, c) => (some c.word, c)

-- The next `n` bytes of eight cells each, or as many as there are.
def bytes : Nat → Cursor → List UInt8 × Cursor
  | 0, c => ([], c)
  | n + 1, c =>
    match c.bits 8 with
    | (none, c) => ([], c)
    | (some word, c) =>
      let (rest, c) := bytes n c
      (word.toUInt8 :: rest, c)

-- Cells left in the turns to come and in the one that was begun.
def remaining (c : Cursor) : Nat :=
  (c.revolutions - c.turn) * c.source.length + (c.source.length - c.position) % c.source.length

-- What a cursor can become: it stays on its source and never goes back.
structure Reaches (c d : Cursor) : Prop where
  source : d.source = c.source
  revolutions : d.revolutions = c.revolutions
  remaining_le : d.remaining ≤ c.remaining

theorem Reaches.refl (c : Cursor) : c.Reaches c := ⟨rfl, rfl, Nat.le_refl _⟩

theorem Reaches.trans {c d e : Cursor} (first : c.Reaches d) (second : d.Reaches e) : c.Reaches e :=
  ⟨second.source.trans first.source, second.revolutions.trans first.revolutions,
    Nat.le_trans second.remaining_le first.remaining_le⟩

theorem reaches_restart_crc (c : Cursor) : c.Reaches c.restartCrc := ⟨rfl, rfl, Nat.le_refl _⟩

theorem left_of_turn {place length : Nat} (inside : place < length) :
    (length - (place + 1) % length) % length + 1 = length - place := by
  by_cases more : place + 1 < length
  · rw [Nat.mod_eq_of_lt more, Nat.mod_eq_of_lt (by omega)]
    omega
  · have last : place + 1 = length := by omega
    rw [last, Nat.mod_self, Nat.sub_zero, Nat.mod_self]
    omega

-- Everything that a read can do.
theorem next_cases (c : Cursor) :
    (c.source.length = 0 ∧ c.next = (none, c)) ∨
      (0 < c.source.length ∧ c.position = 0 ∧ c.revolutions ≤ c.turn ∧
        c.next = (none, c.atPulse)) ∨
      (∃ cells : 0 < c.source.length, c.position = 0 ∧ c.turn < c.revolutions ∧
        c.next = c.atPulse.beginTurn.take cells) ∨
      ∃ cells : 0 < c.source.length, c.position ≠ 0 ∧ c.next = c.take cells := by
  unfold next
  by_cases cells : 0 < c.source.length
  · rw [dif_pos cells]
    by_cases pulse : c.position = 0
    · rw [if_pos pulse]
      by_cases spent : c.revolutions ≤ c.turn
      · rw [if_pos spent]
        exact .inr (.inl ⟨cells, pulse, spent, rfl⟩)
      · rw [if_neg spent]
        exact .inr (.inr (.inl ⟨cells, pulse, Nat.lt_of_not_le spent, rfl⟩))
    · rw [if_neg pulse]
      exact .inr (.inr (.inr ⟨cells, pulse, rfl⟩))
  · rw [dif_neg cells]
    exact .inl ⟨Nat.eq_zero_of_not_pos cells, rfl⟩

theorem remaining_take {c : Cursor} (cells : 0 < c.source.length) :
    (c.take cells).2.remaining + 1 =
      (c.revolutions - c.turn) * c.source.length + (c.source.length - c.position) := by
  have inside : c.position < c.source.length := by
    rcases c.placed with pulse | inside
    · rwa [pulse]
    · exact inside
  have left := left_of_turn inside
  change (c.revolutions - c.turn) * c.source.length +
    (c.source.length - (c.position + 1) % c.source.length) % c.source.length + 1 = _
  omega

-- A cell that was read is one that was left to read.
theorem remaining_next {c d : Cursor} {bit : Bool} (h : c.next = (some bit, d)) :
    d.remaining + 1 = c.remaining := by
  rcases c.next_cases with ⟨-, step⟩ | ⟨-, -, -, step⟩ | ⟨cells, pulse, more, step⟩ |
    ⟨cells, inside, step⟩ <;> rw [h] at step
  · cases step
  · cases step
  · have left := remaining_take (c := c.atPulse.beginTurn) cells
    have turns : c.revolutions - c.turn = c.revolutions - (c.turn + 1) + 1 := by omega
    rw [← step] at left
    change d.remaining + 1 = (c.revolutions - (c.turn + 1)) * c.source.length +
      (c.source.length - c.position) at left
    rw [left, remaining, pulse, turns, Nat.sub_zero, Nat.mod_self, Nat.add_mul, Nat.one_mul]
    rfl
  · have left := remaining_take cells
    rw [← step] at left
    rw [left, remaining, Nat.mod_eq_of_lt (a := c.source.length - c.position) (by omega)]

theorem reaches_next (c : Cursor) : c.Reaches c.next.2 := by
  have fewer : ∀ bit d, c.next = (some bit, d) → d.remaining ≤ c.remaining :=
    fun _ _ step => by have := remaining_next step; omega
  rcases c.next_cases with ⟨-, step⟩ | ⟨-, -, -, step⟩ | ⟨cells, -, -, step⟩ | ⟨cells, -, step⟩ <;>
    rw [step]
  · exact .refl c
  · exact ⟨rfl, rfl, Nat.le_refl _⟩
  · exact ⟨rfl, rfl, fewer _ _ step⟩
  · exact ⟨rfl, rfl, fewer _ _ step⟩

theorem reaches_of_next {c d : Cursor} {bit : Option Bool} (h : c.next = (bit, d)) :
    c.Reaches d := by
  have reached := c.reaches_next
  rwa [h] at reached

theorem remaining_next_lt {c d : Cursor} {bit : Bool} (h : c.next = (some bit, d)) :
    d.remaining < c.remaining := by
  have := remaining_next h
  omega

theorem reaches_advance (n : Nat) (c : Cursor) : c.Reaches (c.advance n).2 := by
  induction n generalizing c with
  | zero => exact .refl c
  | succ n ih =>
    unfold advance
    split <;> rename_i h
    · exact reaches_of_next h
    · exact (reaches_of_next h).trans (ih _)

theorem reaches_bits (n : Nat) (c : Cursor) : c.Reaches (c.bits n).2 := by
  have step := c.reaches_advance n
  unfold bits
  split <;> rename_i h <;> rw [h] at step <;> exact step

theorem reaches_bytes (n : Nat) (c : Cursor) : c.Reaches (c.bytes n).2 := by
  induction n generalizing c with
  | zero => exact .refl c
  | succ n ih =>
    have step := c.reaches_bits 8
    unfold bytes
    split <;> rename_i h <;> rw [h] at step
    · exact step
    · exact step.trans (ih _)

-- Reads cell by cell until `stop` holds, and tells whether it came to hold.
@[specialize]
def seek (stop : Cursor → Bool) (c : Cursor) : Bool × Cursor :=
  match _ : c.next with
  | (none, d) => (false, d)
  | (some _, d) => if stop d then (true, d) else seek stop d
termination_by c.remaining
decreasing_by exact remaining_next_lt ‹_›

theorem reaches_seek (stop : Cursor → Bool) (c : Cursor) : c.Reaches (c.seek stop).2 := by
  fun_induction seek stop c with
  | case1 c d h => exact reaches_of_next h
  | case2 c bit d h _ => exact reaches_of_next h
  | case3 c bit d h _ ih => exact (reaches_of_next h).trans ih

theorem remaining_seek_lt {stop : Cursor → Bool} {c d : Cursor} (h : c.seek stop = (true, d)) :
    d.remaining < c.remaining := by
  fun_induction seek stop c with
  | case1 => simp at h
  | case2 c bit e step _ =>
    simp only [Prod.mk.injEq, true_and] at h
    exact h ▸ remaining_next_lt step
  | case3 c bit e step _ ih => exact Nat.lt_trans (ih h) (remaining_next_lt step)

-- Whether the latest cell is the first one of a turn other than the first.
def isPastPulse (c : Cursor) : Bool := c.sincePulse == 1 && decide (1 < c.turn)

-- Reads on past the next index pulse, so that the turn before it is measured.
def seekIndex (c : Cursor) : Bool × Cursor := c.seek isPastPulse

end Cursor

end FloppyTrack
