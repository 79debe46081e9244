import FloppyTrack.Proofs.Reading
import FloppyTrack.Proofs.Tape

set_option autoImplicit false

namespace FloppyTrack

-- The byte of the `k`-th sixteen cells ahead.
def Cursor.byteAhead (c : Cursor) (k : Nat) : UInt8 :=
  cellByte (c.source.stretch (c.read + 16 * k) 16)

namespace Reader

-- What a check of `slots` bytes comes to, of which the first is in the slot `slot`, and how many cells it
-- takes. Cells that run out before a byte is whole are taken all the same, and the byte is told as zero.
inductive Filled (ahead : Nat → UInt8) (left : Nat) (byte : UInt8) (slot slots : Nat) :
    Except Flaw Unit → Nat → Prop
  | whole (room : 16 * slots ≤ left) (same : ∀ k, k < slots → ahead k = byte) :
      Filled ahead left byte slot slots (.ok ()) (16 * slots)
  | broken {k : Nat} (early : k < slots) (room : 16 * (k + 1) ≤ left)
      (same : ∀ j, j < k → ahead j = byte) (differs : ahead k ≠ byte) :
      Filled ahead left byte slot slots (.error (.pattern (slot + k) (ahead k))) (16 * (k + 1))
  | cut {k : Nat} (early : k < slots) (begun : 16 * k ≤ left) (short : left < 16 * (k + 1))
      (same : ∀ j, j < k → ahead j = byte) :
      Filled ahead left byte slot slots (.error (.pattern (slot + k) 0)) left

section
variable {ahead : Nat → UInt8} {left slot slots taken : Nat} {byte : UInt8} {result : Except Flaw Unit}

theorem Filled.later (first : ahead 0 = byte) (room : 16 ≤ left)
    (rest : Filled (fun k => ahead (k + 1)) (left - 16) byte (slot + 1) slots result taken) :
    Filled ahead left byte slot (slots + 1) result (16 + taken) := by
  cases rest with
  | whole more same =>
    have cells : 16 + 16 * slots = 16 * (slots + 1) := by omega
    rw [cells]
    exact .whole (by omega) (Nat.forall_lt_succ_left.mpr ⟨first, same⟩)
  | @broken k early more same differs =>
    have cells : 16 + 16 * (k + 1) = 16 * (k + 1 + 1) := by omega
    rw [cells, Nat.add_assoc slot, Nat.add_comm 1]
    exact .broken (by omega) (by omega) (Nat.forall_lt_succ_left.mpr ⟨first, same⟩) differs
  | @cut k early begun short same =>
    rw [Nat.add_sub_cancel' room, Nat.add_assoc slot, Nat.add_comm 1]
    exact .cut (by omega) (by omega) (by omega) (Nat.forall_lt_succ_left.mpr ⟨first, same⟩)

-- The first byte that is not the one asked for is the only such byte, and the cells end in one only.
theorem Filled.unique {other : Except Flaw Unit} {cells : Nat}
    (one : Filled ahead left byte slot slots result taken)
    (two : Filled ahead left byte slot slots other cells) : other = result ∧ cells = taken := by
  cases one with
  | whole room same =>
    cases two with
    | whole => exact ⟨rfl, rfl⟩
    | broken early _ _ differs => exact absurd (same _ early) differs
    | cut early _ short _ => omega
  | @broken k early room same differs =>
    cases two with
    | whole _ all => exact absurd (all k early) differs
    | @broken j _ _ before other =>
      rcases Nat.lt_trichotomy j k with less | rfl | more
      · exact absurd (same j less) other
      · exact ⟨rfl, rfl⟩
      · exact absurd (before k more) differs
    | @cut j _ _ short before => exact absurd (before k (by omega)) differs
  | @cut k early begun short same =>
    cases two with
    | whole => omega
    | @broken j _ more before other => exact absurd (same j (by omega)) other
    | @cut j _ started ended _ =>
      obtain rfl : j = k := by omega
      exact ⟨rfl, rfl⟩

theorem Filled.whole_iff (filled : Filled ahead left byte slot slots result taken) :
    result = .ok () ∧ taken = 16 * slots ↔
      16 * slots ≤ left ∧ ∀ k, k < slots → ahead k = byte := by
  constructor
  · rintro ⟨rfl, -⟩
    cases filled with
    | whole room same => exact ⟨room, same⟩
  · rintro ⟨room, same⟩
    obtain ⟨passed, cells⟩ := filled.unique (.whole room same)
    exact ⟨passed.symm, cells.symm⟩

end

section
variable {r : Revolution} {R n : Nat}

theorem takes_fill (byte : UInt8) (slot slots : Nat) (within : n ≤ R * r.length) :
    ∃ result taken, (fillFrom byte slot slots).Takes r R n result (n + taken) ∧
      Filled (fun k => r.byteAt (n + 16 * k)) (R * r.length - n) byte slot slots result taken := by
  induction slots generalizing n slot with
  | zero =>
    exact ⟨_, _, takes_pure _, .whole (Nat.zero_le _) fun k early => absurd early k.not_lt_zero⟩
  | succ slots ih =>
    by_cases room : n + 16 ≤ R * r.length
    · have first := takes_byte room
      by_cases same : r.byteAt n = byte
      · obtain ⟨result, taken, takes, filled⟩ := ih (slot + 1) room
        have ahead : (fun k => r.byteAt (n + 16 + 16 * k)) = fun k => r.byteAt (n + 16 * (k + 1)) := by
          funext k
          rw [Nat.mul_succ, Nat.add_comm (16 * k), Nat.add_assoc]
        rw [ahead, ← Nat.sub_sub] at filled
        refine ⟨result, 16 + taken, takes_bind first ?_, .later same (by omega) filled⟩
        dsimp only
        rw [if_pos same, ← Nat.add_assoc]
        exact takes
      · refine ⟨_, _, takes_bind first ?_, .broken (k := 0) slots.succ_pos (by omega) ?_ same⟩
        · dsimp only
          rw [if_neg same]
          exact takes_pure _
        · exact fun j early => absurd early j.not_lt_zero
    · have stop : R * r.length = n + (R * r.length - n) := by omega
      have unread := takes_no_byte (Nat.lt_of_not_le room)
      rw [stop] at unread
      refine ⟨_, _, takes_bind unread (takes_pure _), .cut (k := 0) slots.succ_pos ?_ (by omega) ?_⟩
      · exact Nat.zero_le _
      · exact fun j early => absurd early j.not_lt_zero

end

end Reader

theorem Cursor.Stands.byte_ahead {c : Cursor} {r : Revolution} {R n : Nat} (stands : c.Stands r R n) :
    c.byteAhead = fun k => r.byteAt (n + 16 * k) := by
  funext k
  rw [byteAhead, stands.source, stands.read, byte_at_cells]

-- The last slot of a run is never read, and a run of one byte or none asks for no cell.
theorem fill_exact {c : Cursor} {r : Revolution} {R : Nat} (reached : c.Reached r R) (count : Nat)
    (byte : UInt8) :
    ∃ result d taken, (Reader.fill count byte).run c = (result, d) ∧ d.Stands r R (c.read + taken) ∧
      (result = .ok () ∧ taken = 16 * (count - 1) ↔
        16 * (count - 1) ≤ c.remaining ∧ ∀ k, k < count - 1 → c.byteAhead k = byte) ∧
      ∀ other cells, Reader.Filled c.byteAhead c.remaining byte 1 (count - 1) other cells ↔
        other = result ∧ cells = taken := by
  have stands := reached.stands
  obtain ⟨result, taken, takes, filled⟩ := Reader.takes_fill byte 1 (count - 1) stands.within
  rw [← stands.byte_ahead, ← stands.remaining] at filled
  obtain ⟨value, stopped⟩ := takes c stands
  refine ⟨result, _, taken, Prod.ext value rfl, stopped, filled.whole_iff, fun other cells => ?_⟩
  constructor
  · exact filled.unique
  · rintro ⟨rfl, rfl⟩
    exact filled

def blankTurn : Revolution := Revolution.ofBits (List.replicate 20 false)

-- Two bytes are whole, the first of them across the pulse; the third is cut short by the end of the last turn.
theorem cut_fill_told :
    ((Cursor.start blankTurn 2).run [.bits 5]).Reached blankTurn 2 ∧
      ∃ d, (Reader.fill 4 0).run ((Cursor.start blankTurn 2).run [.bits 5]) =
        (.error (.pattern 3 0), d) ∧ d.Stands blankTurn 2 40 := by
  have reached : ((Cursor.start blankTurn 2).run [.bits 5]).Reached blankTurn 2 :=
    ⟨[], [.bits 5], rfl⟩
  have read : ((Cursor.start blankTurn 2).run [.bits 5]).read = 5 := by decide
  have left : ((Cursor.start blankTurn 2).run [.bits 5]).remaining = 35 := by decide
  have clear : ∀ j, j < 2 → ((Cursor.start blankTurn 2).run [.bits 5]).byteAhead j = 0 := by
    decide +kernel
  obtain ⟨result, d, taken, run, stands, -, told⟩ := fill_exact reached 4 0
  rw [left] at told
  obtain ⟨rfl, rfl⟩ := (told _ _).mp (.cut (k := 2) (by decide) (by decide) (by decide) clear)
  rw [read] at stands
  exact ⟨reached, d, run, stands⟩

end FloppyTrack
