import FloppyTrack.Proofs.Halves

set_option autoImplicit false

namespace FloppyTrack

theorem Crc16.update_append (crc : UInt16) (front back : List UInt8) :
    update crc (front ++ back) = update (update crc front) back :=
  List.foldl_append

namespace Cursor

-- The answers of the single reads that reading `n` cells is made of. The last one may be that there is no
-- cell left.
def advanceAnswers : Nat → Cursor → List (Option Bool)
  | 0, _ => []
  | n + 1, c =>
    match c.next with
    | (none, _) => [none]
    | (some bit, d) => some bit :: advanceAnswers n d

-- Those of up to `left` groups of cells, of which the next one is read only while the words `go`.
def groupAnswers (size : Nat) (go : UInt32 → Bool) : Nat → Cursor → List (Option Bool)
  | 0, _ => []
  | left + 1, c =>
    advanceAnswers size c ++
      match c.bits size with
      | (none, _) => []
      | (some word, d) => if go word then groupAnswers size go left d else []

inductive Reads : Cursor → List (Option Bool) → Cursor → Prop
  | none (c : Cursor) : Reads c [] c
  | more {c d : Cursor} {answers : List (Option Bool)} (rest : Reads c.next.2 answers d) :
      Reads c (c.next.1 :: answers) d

theorem Reads.trans {c d e : Cursor} {front back : List (Option Bool)} (first : c.Reads front d)
    (second : d.Reads back e) : c.Reads (front ++ back) e := by
  induction first with
  | none c => exact second
  | more _ ih => exact .more (ih second)

theorem Reads.step {c d e : Cursor} {answer : Option Bool} {answers : List (Option Bool)}
    (read : c.next = (answer, d)) (rest : d.Reads answers e) : c.Reads (answer :: answers) e := by
  obtain rfl : c.next.1 = answer := congrArg Prod.fst read
  obtain rfl : c.next.2 = d := congrArg Prod.snd read
  exact .more rest

theorem reads_advance (n : Nat) (c : Cursor) :
    c.Reads (advanceAnswers n c) (c.advance n).2 := by
  induction n generalizing c with
  | zero => exact .none c
  | succ n ih =>
    rw [advance, advanceAnswers]
    rcases read : c.next with ⟨_ | bit, d⟩
    · exact .step read (.none d)
    · exact .step read (ih d)

theorem reads_bits (n : Nat) (c : Cursor) : c.Reads (advanceAnswers n c) (c.bits n).2 := by
  have reads := c.reads_advance n
  unfold bits
  split <;> rename_i read <;> rw [read] at reads <;> exact reads

theorem reads_bytes (n : Nat) (c : Cursor) :
    c.Reads (groupAnswers 8 (fun _ => true) n c) (c.bytes n).2 := by
  induction n generalizing c with
  | zero => exact .none c
  | succ n ih =>
    have first := c.reads_bits 8
    rw [bytes, groupAnswers]
    rcases read : c.bits 8 with ⟨_ | word, d⟩ <;> rw [read] at first
    · exact first.trans (.none d)
    · exact first.trans (ih d)

-- The CRC was restarted with `start` cells read.
structure Sums (c : Cursor) (r : Revolution) (R start : Nat) : Prop where
  stands : c.Stands r R c.read
  begun : start ≤ c.read
  phase : c.crcPhase = (c.read - start) % 16
  crc : c.crc = Crc16.update Crc16.initial (r.bytesFrom start ((c.read - start) / 16))

variable {c d : Cursor} {r : Revolution} {R n start : Nat}

theorem restarted_sums (stands : c.Stands r R n) : c.restartCrc.Sums r R n := by
  have restarted := stands.restart_crc
  have read : c.restartCrc.read = n := restarted.read
  refine ⟨by rw [read]; exact restarted, Nat.le_of_eq read.symm, ?_, ?_⟩
  · rw [read, Nat.sub_self]
    rfl
  · rw [read, Nat.sub_self]
    rfl

-- The CRC and its phase behind a read, which asks for nothing but the latest word.
theorem next_crc (c : Cursor) :
    (c.next.1 = none → c.next.2.crcPhase = c.crcPhase ∧ c.next.2.crc = c.crc) ∧
      (c.next.1 ≠ none →
        c.next.2.crcPhase = (if c.crcPhase + 1 = 16 then 0 else c.crcPhase + 1) ∧
          c.next.2.crc = if c.crcPhase + 1 = 16
            then Crc16.byte c.crc (dataByte c.next.2.word.toUInt16) else c.crc) := by
  rcases c.next_cases with ⟨-, step⟩ | ⟨-, -, -, step⟩ | ⟨_, -, -, step⟩ | ⟨_, -, step⟩ <;>
    rw [step]
  · exact ⟨fun _ => ⟨rfl, rfl⟩, fun read => absurd rfl read⟩
  · exact ⟨fun _ => ⟨rfl, rfl⟩, fun read => absurd rfl read⟩
  · exact ⟨fun unread => (Option.some_ne_none _ unread).elim, fun _ => ⟨rfl, rfl⟩⟩
  · exact ⟨fun unread => (Option.some_ne_none _ unread).elim, fun _ => ⟨rfl, rfl⟩⟩

theorem Sums.more (sums : c.Sums r R start) (more : c.read < R * r.length) :
    c.next.2.Sums r R start := by
  have begun := sums.begun
  obtain ⟨cell, stands⟩ := sums.stands.next_more more
  have read := stands.read
  obtain ⟨phase, crc⟩ := c.next_crc.2 (by rw [cell]; exact Option.some_ne_none _)
  have parts := Nat.div_add_mod (c.read - start) 16
  have small := Nat.mod_lt (c.read - start) (show 0 < 16 by decide)
  rw [← sums.phase] at parts small
  refine ⟨by rwa [read], by omega, ?_, ?_⟩
  · rw [phase, read]
    split <;> omega
  · rw [crc, read]
    by_cases full : c.crcPhase + 1 = 16
    · have place : start + 16 * ((c.read - start) / 16) + 16 = c.read + 1 := by omega
      have more : (c.read + 1 - start) / 16 = (c.read - start) / 16 + 1 := by omega
      have byte : r.byteAt (start + 16 * ((c.read - start) / 16)) =
          dataByte c.next.2.word.toUInt16 := by
        rw [Revolution.byteAt, place, stands.word]
      rw [if_pos full, more, bytes_from_append, Crc16.update_append, ← sums.crc, ← byte]
      rfl
    · have same : (c.read + 1 - start) / 16 = (c.read - start) / 16 := by omega
      rw [if_neg full, same]
      exact sums.crc

theorem Sums.next (sums : c.Sums r R start) : c.next.2.Sums r R start := by
  by_cases more : c.read < R * r.length
  · exact sums.more more
  · have all : c.read = R * r.length :=
      Nat.le_antisymm sums.stands.within (Nat.le_of_not_lt more)
    obtain ⟨unread, stands⟩ := Stands.next_spent (all ▸ sums.stands)
    obtain ⟨phase, crc⟩ := c.next_crc.1 unread
    have read : c.next.2.read = c.read := stands.read.trans all.symm
    refine ⟨by rw [read, all]; exact stands, by rw [read]; exact sums.begun, ?_, ?_⟩
    · rw [phase, read]
      exact sums.phase
    · rw [crc, read]
      exact sums.crc

theorem Sums.reads {answers : List (Option Bool)} (sums : c.Sums r R start)
    (reads : c.Reads answers d) : d.Sums r R start := by
  induction reads with
  | none c => exact sums
  | more _ ih => exact ih sums.next

end Cursor

end FloppyTrack
