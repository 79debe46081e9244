import FloppyTrack.Proofs.Halves
import FloppyTrack.Proofs.Placement

set_option autoImplicit false

namespace FloppyTrack

-- Cells that the encoding writes for `n` bits and leaves out of its count.
def Encoding.uncounted (encoding : Encoding) (n : Nat) : Nat :=
  match encoding with
  | raw | mfm => 0
  | even | odd => n % 2
  | evenOdd | evenOddLongs => 2 * (n % 2)

theorem Encoding.odd_bits_length (n value : Nat) : (oddBits n value).length = (n + 1) / 2 := by
  rw [oddBits, List.length_map]
  induction n with
  | zero => rfl
  | succ n ih =>
    rw [List.range_succ, List.reverse_append, List.reverse_singleton, List.singleton_append,
      List.filter_cons]
    split <;> rename_i even <;> rw [decide_eq_true_iff] at even
    · rw [List.length_cons, ih]
      omega
    · rw [ih]
      omega

theorem Encoding.even_bits_length (n value : Nat) : (evenBits n value).length = (n + 1) / 2 :=
  odd_bits_length n (value / 2)

namespace Emission

inductive Call where
  | word (encoding : Encoding) (n value : Nat)
  | block (encoding : Encoding) (data : List UInt8)

def after (e : Emission) : Call → Emission
  | .word encoding n value => e.word encoding n value
  | .block encoding data => e.block encoding data

def run (e : Emission) (calls : List Call) : Emission := calls.foldl after e

namespace Call

def encoding : Call → Encoding
  | word encoding _ _ | block encoding _ => encoding

-- The bits that are written, in the order in which they are.
def bits : Call → List Bool
  | word encoding n value => encoding.wordBits n value
  | block encoding data => encoding.blockBits data

def cells (last : Bool) (call : Call) : List Bool :=
  if call.encoding = .raw then call.bits else mfmCells last call.bits

-- The cells that the encoding counts for the call.
def counted : Call → Nat
  | word encoding n _ => encoding.cellCount n
  | block encoding data => encoding.cellCount (8 * data.length)

-- The cells that are written besides. Bytes have an even number of bits.
def uncounted : Call → Nat
  | word encoding n _ => encoding.uncounted n
  | block .. => 0

theorem word_length (last : Bool) (encoding : Encoding) (n value : Nat) :
    ((word encoding n value).cells last).length = encoding.cellCount n + encoding.uncounted n := by
  have halves : 2 * ((n + 1) / 2) = n + n % 2 := by omega
  cases encoding with
  | raw => exact Bits.of_nat_length n value
  | mfm => exact (mfm_cells_length last _).trans (congrArg (2 * ·) (Bits.of_nat_length n value))
  | even =>
    exact (mfm_cells_length last _).trans
      ((congrArg (2 * ·) (Encoding.even_bits_length n value)).trans halves)
  | odd =>
    exact (mfm_cells_length last _).trans
      ((congrArg (2 * ·) (Encoding.odd_bits_length n value)).trans halves)
  | evenOdd | evenOddLongs =>
    have both : (Encoding.evenBits n value ++ Encoding.oddBits n value).length = n + n % 2 := by
      rw [List.length_append, Encoding.even_bits_length, Encoding.odd_bits_length]
      omega
    exact (mfm_cells_length last _).trans ((congrArg (2 * ·) both).trans (Nat.mul_add 2 n (n % 2)))

theorem block_length (last : Bool) (encoding : Encoding) (data : List UInt8) :
    ((block encoding data).cells last).length = encoding.cellCount (8 * data.length) := by
  have quarters : 2 * (4 * data.length) = 8 * data.length := by omega
  cases encoding with
  | raw => exact byte_bits_length data
  | mfm => exact (mfm_cells_length last _).trans (congrArg (2 * ·) (byte_bits_length data))
  | even =>
    exact (mfm_cells_length last _).trans ((congrArg (2 * ·) (Encoding.evens_length data)).trans quarters)
  | odd =>
    exact (mfm_cells_length last _).trans ((congrArg (2 * ·) (Encoding.odds_length data)).trans quarters)
  | evenOdd =>
    exact (mfm_cells_length last _).trans (congrArg (2 * ·) (Encoding.split_bits_length data))
  | evenOddLongs =>
    exact (mfm_cells_length last _).trans (congrArg (2 * ·) (Encoding.long_bits_length data))

theorem cells_length (last : Bool) (call : Call) :
    (call.cells last).length = call.counted + call.uncounted := by
  cases call with
  | word encoding n value => exact word_length last encoding n value
  | block encoding data => exact block_length last encoding data

end Call

def emitted (last : Bool) : List Call → List Bool
  | [] => []
  | call :: calls => call.cells last ++ emitted ((call.cells last).getLastD last) calls

theorem last_of_cells (e : Emission) : e.last = e.cells.toList.getLastD false := by
  rw [last, List.getLastD_eq_getLast?, Array.getLast?_toList]

theorem after_write (e : Emission) (call : Call) : e.after call = e.write call.encoding call.bits := by
  cases call <;> rfl

theorem after_cells (e : Emission) (call : Call) :
    (e.after call).cells.toList = e.cells.toList ++ call.cells e.last ∧
      (e.after call).total = e.total ∧ (e.after call).offset = e.offset := by
  rw [after_write, Call.cells]
  split <;> rename_i raw
  · rw [raw, write, put_all]
    simp
  · rw [write_clocked raw, clock_all]
    simp

theorem after_last (e : Emission) (call : Call) :
    (e.after call).last = (call.cells e.last).getLastD e.last := by
  rw [last_of_cells, (e.after_cells call).1, last_of_cells e, List.getLastD_eq_getLast?,
    List.getLastD_eq_getLast?, List.getLastD_eq_getLast?, List.getLast?_append, Option.getD_or]

theorem run_cells (calls : List Call) (e : Emission) :
    (e.run calls).cells.toList = e.cells.toList ++ emitted e.last calls ∧
      (e.run calls).total = e.total ∧ (e.run calls).offset = e.offset := by
  induction calls generalizing e with
  | nil => exact ⟨(List.append_nil _).symm, rfl, rfl⟩
  | cons call calls ih =>
    obtain ⟨cells, total, offset⟩ := e.after_cells call
    obtain ⟨more, totals, offsets⟩ := ih (e.after call)
    refine ⟨?_, totals.trans total, offsets.trans offset⟩
    rw [emitted, ← List.append_assoc, ← cells, ← after_last]
    exact more

theorem emitted_length (calls : List Call) (last : Bool) :
    (emitted last calls).length =
      (calls.map Call.counted).sum + (calls.map Call.uncounted).sum := by
  induction calls generalizing last with
  | nil => rfl
  | cons call calls ih =>
    rw [emitted, List.length_append, Call.cells_length, ih]
    simp only [List.map_cons, List.sum_cons]
    omega

theorem Call.uncounted_none (call : Call) :
    call.uncounted = 0 ↔ ∀ encoding n value, call = .word encoding n value →
      encoding = .raw ∨ encoding = .mfm ∨ n % 2 = 0 := by
  cases call with
  | block encoding data => exact ⟨fun _ _ _ _ same => (nomatch same), fun _ => rfl⟩
  | word encoding n value =>
    constructor
    · rintro same _ _ _ ⟨⟩
      cases encoding <;> simp_all [uncounted, Encoding.uncounted]
    · intro each
      rcases each encoding n value rfl with rfl | rfl | even
      · rfl
      · rfl
      · cases encoding <;> simp [uncounted, Encoding.uncounted, even]

-- The count as 32 bits keep it.
def tally (calls : List Call) : UInt32 :=
  calls.foldl (fun total call => total + UInt32.ofNat call.counted) 0

theorem tally_wraps (calls : List Call) (total : Nat) :
    calls.foldl (fun total call => total + UInt32.ofNat call.counted) (UInt32.ofNat total) =
      UInt32.ofNat (total + (calls.map Call.counted).sum) := by
  induction calls generalizing total with
  | nil => rfl
  | cons call calls ih =>
    rw [List.foldl_cons, ← UInt32.ofNat_add, ih, List.map_cons, List.sum_cons, Nat.add_assoc]

theorem tally_sum (calls : List Call) : tally calls = UInt32.ofNat (calls.map Call.counted).sum := by
  have wraps := tally_wraps calls 0
  rwa [Nat.zero_add] at wraps

-- The count is right unless a word of an odd number of bits is split, in 32 bits as well while they can
-- count the cells.
theorem emitted_as_counted (total offset : Nat) (calls : List Call) :
    ((start total offset).run calls).size =
        (calls.map Call.counted).sum + (calls.map Call.uncounted).sum ∧
      (((start total offset).run calls).size = (calls.map Call.counted).sum ↔
        ∀ encoding n value, Call.word encoding n value ∈ calls →
          encoding = .raw ∨ encoding = .mfm ∨ n % 2 = 0) ∧
      (((start total offset).run calls).size < 2 ^ 32 →
        (UInt32.ofNat ((start total offset).run calls).size = tally calls ↔
          ∀ encoding n value, Call.word encoding n value ∈ calls →
            encoding = .raw ∨ encoding = .mfm ∨ n % 2 = 0)) := by
  have size : ((start total offset).run calls).size =
      (calls.map Call.counted).sum + (calls.map Call.uncounted).sum := by
    rw [Emission.size, ← Array.length_toList, (run_cells calls _).1, List.length_append,
      emitted_length]
    exact Nat.zero_add _
  have evenly : ((start total offset).run calls).size = (calls.map Call.counted).sum ↔
      ∀ encoding n value, Call.word encoding n value ∈ calls →
        encoding = .raw ∨ encoding = .mfm ∨ n % 2 = 0 := by
    rw [size, Nat.add_eq_left, List.sum_eq_zero_iff_forall_eq_nat]
    simp only [List.mem_map, forall_exists_index, and_imp, forall_apply_eq_imp_iff₂,
      Call.uncounted_none]
    constructor
    · intro each encoding n value listed
      exact each _ listed encoding n value rfl
    · rintro each call listed encoding n value rfl
      exact each encoding n value listed
  refine ⟨size, evenly, fun short => ?_⟩
  have fewer : (calls.map Call.counted).sum < 2 ^ 32 := by omega
  rw [← evenly, tally_sum, ← UInt32.toNat_inj, UInt32.toNat_ofNat_of_lt' short,
    UInt32.toNat_ofNat_of_lt' fewer]

theorem even_words_counted :
    ((start 0 0).run [.word .evenOdd 30 0x12345678, .block .odd [0x4e]]).size < 2 ^ 32 ∧
      UInt32.ofNat ((start 0 0).run [.word .evenOdd 30 0x12345678, .block .odd [0x4e]]).size =
        tally [.word .evenOdd 30 0x12345678, .block .odd [0x4e]] := by
  have short : ((start 0 0).run [.word .evenOdd 30 0x12345678, .block .odd [0x4e]]).size < 2 ^ 32 := by
    decide
  obtain ⟨-, -, counts⟩ := emitted_as_counted 0 0 [.word .evenOdd 30 0x12345678, .block .odd [0x4e]]
  refine ⟨short, (counts short).mpr ?_⟩
  intro encoding n value listed
  have first : Call.word encoding n value = .word .evenOdd 30 0x12345678 :=
    (List.mem_cons.mp listed).resolve_right (by simp)
  cases first
  exact .inr (.inr rfl)

-- One bit of the odd half is counted as one cell, but it is written with its clock.
theorem odd_bit_uncounted :
    ((start 0 0).run [.word .odd 1 0]).size = 2 ∧
      ([Call.word .odd 1 0].map Call.counted).sum = 1 := by
  decide

end Emission

end FloppyTrack
