import FloppyTrack.Proofs.Copies
import FloppyTrack.Proofs.LongTrack.Splice
import FloppyTrack.Proofs.LongTrack.Written

set_option autoImplicit false

namespace FloppyTrack.LongTrack.Protec

-- The bytes of a turn: the mark, the fill and the gap.
def ring (byte : UInt8) (gap : Nat) : List UInt8 :=
  0xae :: (List.replicate 6000 byte ++ List.replicate gap 0)

def ringAt (byte : UInt8) (gap k : Nat) : UInt8 := (ring byte gap ++ ring byte gap).getD k 0

section
variable {byte : UInt8} {gap k : Nat}

@[simp] theorem ring_length : (ring byte gap).length = 6001 + gap := by
  rw [ring, List.length_cons, List.length_append, List.length_replicate, List.length_replicate]
  omega

theorem ring_get (within : k < 6001 + gap) :
    (ring byte gap)[k]? = some (if k = 0 then 0xae else if k ≤ 6000 then byte else 0) := by
  cases k with
  | zero => rfl
  | succ k =>
    rw [ring, List.getElem?_cons_succ, List.getElem?_append, List.length_replicate,
      List.getElem?_replicate, List.getElem?_replicate]
    by_cases fill : k < 6000
    · rw [if_pos fill, if_pos fill, if_neg (Nat.succ_ne_zero k), if_pos (by omega)]
    · rw [if_neg fill, if_pos (by omega), if_neg (Nat.succ_ne_zero k), if_neg (by omega)]

theorem ring_at (within : k < 6001 + gap) :
    ringAt byte gap k = if k = 0 then 0xae else if k ≤ 6000 then byte else 0 := by
  rw [ringAt, List.getD_eq_getElem?_getD, List.getElem?_append_left (by simpa using within),
    ring_get within, Option.getD_some]

theorem ring_around (within : k < 6001 + gap) :
    ringAt byte gap (6001 + gap + k) = ringAt byte gap k := by
  rw [ring_at within, ringAt, List.getD_eq_getElem?_getD, List.getElem?_append_right (by simp),
    ring_length, Nat.add_sub_cancel_left, ring_get within, Option.getD_some]

theorem ring_mark : ringAt byte gap 0 = 0xae := by
  rw [ring_at (by omega), if_pos rfl]

theorem ring_fill (behind : 0 < k) (upTo : k ≤ 6000) : ringAt byte gap k = byte := by
  rw [ring_at (by omega), if_neg (by omega), if_pos upTo]

theorem ring_gap (behind : 6000 < k) (within : k < 6001 + gap) : ringAt byte gap k = 0 := by
  rw [ring_at within, if_neg (by omega), if_neg (by omega)]

theorem ring_closes : ringAt byte gap (6001 + gap) = 0xae :=
  (ring_around (by omega)).trans ring_mark

end

abbrev mark : Sync := .short 0x4454

theorem mark_proper : mark.Proper := ⟨.inl rfl, by decide⟩

-- The cells of the mark behind its first one, which is clear.
def core : List Bool := Bits.ofNat 15 0x4454

theorem mark_cells : mark.cells = List.replicate 1 false ++ core := rfl

theorem marked : protec.mark = some mark := rfl

theorem mark_data (last : Bool) : mfmCells last (Bits.ofNat 8 (0xae : UInt8).toNat) = mark.cells := by
  cases last <;> rfl

-- Half a turn holds too few zeros to pass for a fill.
structure Ringed (track : Track) (byte : UInt8) (gap : Nat) : Prop where
  byte : track.data.headD 0 = byte
  total : track.total = 16 * (6001 + gap)
  long : 699 ≤ gap
  short : gap < 1000

abbrev turn (track : Track) : Revolution := (protec.codec.emit track).toRevolution

variable {track : Track} {byte : UInt8} {gap : Nat}

namespace Ringed

theorem clocked (ringed : Ringed track byte gap) :
    Clocked (protec.codec.emit track) (byteBits (ring byte gap)) := by
  obtain ⟨lays, total, -⟩ := emit_lays marked track
  have payload : protec.payload track = List.replicate 6000 byte := by
    rw [← ringed.byte]
    exact List.nil_append _
  have fits : (protec.head mark).length +
      2 * ((byteBits (protec.payload track)).length + 8 * gap) =
        (protec.codec.emit track).total := by
    have bits : protec.markBits = 16 := rfl
    rw [head_length, payload, byte_bits_length, List.length_replicate, total, ringed.total,
      bits]
    omega
  have whole := Emission.filled_whole lays fits
  have head : protec.head mark = mfmCells false (Bits.ofNat 8 (0xae : UInt8).toNat) :=
    (mark_data false).symm
  constructor
  · rw [whole, payload, ← byte_bits_zeros, ← byte_bits_append, head]
    exact (mfm_cells_append false (Bits.ofNat 8 (0xae : UInt8).toNat) _).symm
  · obtain ⟨less, rfl⟩ : ∃ less, gap = less + 1 := ⟨gap - 1, by have := ringed.long; omega⟩
    rw [ring, List.replicate_succ' (n := less), ← List.append_assoc, ← List.cons_append,
      byte_bits_append, last_append]
    rfl

theorem placed (ringed : Ringed track byte gap) :
    (protec.codec.emit track).total = 16 * (6001 + gap) ∧
      (protec.codec.emit track).offset = track.offset := by
  obtain ⟨-, total, offset⟩ := emit_lays marked track
  exact ⟨total.trans ringed.total, offset⟩

theorem byte_shown (ringed : Ringed track byte gap) {q shift : Nat} (small : shift < 8)
    (within : q + 1 < 2 * (6001 + gap)) :
    (turn track).byteAt (track.offset + (16 * q + 2 * shift)) =
      splice shift (ringAt byte gap q) (ringAt byte gap (q + 1)) := by
  obtain ⟨total, offset⟩ := ringed.placed
  have place : 16 * q + 2 * shift = 2 * (8 * q + shift) := by omega
  have shown := ringed.clocked.data_shown (by omega) (8 * q + shift) 8 (by omega)
  have inside : q + 1 < (ring byte gap ++ ring byte gap).length := by
    rw [List.length_append, ring_length]
    omega
  rw [offset, ← byte_bits_append, byte_bits_window small inside] at shown
  apply byte_of_bits
  rw [data_byte_bits, place, shown]
  rfl

end Ringed

-- With `m` cells read, the byte that starts `shift` bits into the `q`-th is the latest, and it is that
-- of the mark.
structure Candidate (track : Track) (byte : UInt8) (gap m q shift : Nat) : Prop where
  late : 15 ≤ m
  within : q < 6001 + gap
  small : shift < 8
  place : m % (16 * (6001 + gap)) =
    (track.offset + (16 * (q + 1) + 2 * shift)) % (16 * (6001 + gap))
  shows : splice shift (ringAt byte gap q) (ringAt byte gap (q + 1)) = 0xae

namespace Ringed

theorem seen_candidate (ringed : Ringed track byte gap) {m : Nat}
    (seen : mark.seenAt (turn track) m = true) :
    ∃ q shift, Candidate track byte gap m q shift := by
  obtain ⟨total, offset⟩ := ringed.placed
  obtain ⟨behind, shown⟩ := Sync.seen_core mark_proper mark_cells rfl seen
  have late : 15 ≤ m := behind
  obtain ⟨d, near, place⟩ := (protec.codec.emit track).distance (by omega) (m - 15)
  have turned : (turn track).stretch (track.offset + d) 15 = core := by
    rw [← shown, ← offset]
    apply Revolution.stretch_congr
    rw [Emission.to_revolution_length, ← place]
    rfl
  rw [total] at near
  obtain ⟨i, even | odd⟩ : ∃ i, d = 2 * i ∨ d = 2 * i + 1 := ⟨d / 2, by omega⟩
  · exfalso
    apply ringed.clocked.clock_between (by omega) i (by omega)
    have parts : core = [true] ++ (List.replicate 3 false ++ Bits.ofNat 11 0x454) := rfl
    have cut : 15 = 1 + (3 + 11) := rfl
    rw [cut, Revolution.stretch_add, Revolution.stretch_add, parts] at turned
    obtain ⟨-, rest⟩ := List.append_inj turned (by simp)
    rw [offset, ← even, ← Nat.add_assoc track.offset]
    exact (List.append_inj rest (by simp)).1
  · refine ⟨i / 8, i % 8, late, by omega, by omega, ?_, ?_⟩
    · have moved := congrArg (fun n => (n + 15) % (16 * (6001 + gap))) place
      simp only [total, offset, Nat.mod_add_mod] at moved
      have around : track.offset + d + 15 = track.offset + (16 * (i / 8 + 1) + 2 * (i % 8)) := by
        omega
      rwa [Nat.sub_add_cancel late, around] at moved
    · have bits : (turn track).dataBits (track.offset + 2 * i) 8 =
          Bits.ofNat 8 (0xae : UInt8).toNat := by
        rw [← Revolution.data_cells_stretch, Revolution.stretch_succ, Nat.add_assoc, ← odd, turned]
        rfl
      have at_byte : 2 * i = 16 * (i / 8) + 2 * (i % 8) := by omega
      have small : i % 8 < 8 := by omega
      have inside : i / 8 + 1 < 2 * (6001 + gap) := by omega
      have shown := ringed.byte_shown small inside
      rw [← shown, ← at_byte]
      exact byte_of_bits _ _ ((data_byte_bits _ _).trans bits)

theorem candidate_seen (ringed : Ringed track byte gap) {m q shift : Nat}
    (candidate : Candidate track byte gap m q shift) : mark.seenAt (turn track) m = true := by
  obtain ⟨late, within, small, place, shows⟩ := candidate
  obtain ⟨total, offset⟩ := ringed.placed
  have at_byte : 16 * q + 2 * shift = 2 * (8 * q + shift) := by omega
  have bits := data_byte_bits (turn track) (track.offset + (16 * q + 2 * shift))
  rw [ringed.byte_shown small (by omega), shows, at_byte] at bits
  obtain ⟨last, cells⟩ := ringed.clocked.stretch_bits (by omega) (8 * q + shift) 8 (by omega)
  rw [← ringed.clocked.data_shown (by omega) _ _ (by omega), offset, ← bits, mark_data] at cells
  refine Sync.seen_turned mark_proper mark_cells cells late ?_
  have around : track.offset + (16 * (q + 1) + 2 * shift) =
      track.offset + 2 * (8 * q + shift) + mark.bits := by
    have width : mark.bits = 16 := rfl
    omega
  rw [Emission.to_revolution_length, total, place, around]

end Ringed

namespace Candidate

variable {m q shift : Nat}

-- What the look at a candidate reads.
theorem reads (candidate : Candidate track byte gap m q shift) (ringed : Ringed track byte gap)
    (k : Nat) (within : q + k + 2 < 2 * (6001 + gap)) :
    (turn track).byteAt (m + 16 * k) =
      splice shift (ringAt byte gap (q + k + 1)) (ringAt byte gap (q + k + 2)) := by
  have total := ringed.placed.1
  rw [← ringed.byte_shown candidate.small within]
  apply byte_at_congr
  have around : track.offset + (16 * (q + k + 1) + 2 * shift) =
      track.offset + (16 * (q + 1) + 2 * shift) + 16 * k := by
    omega
  rw [Emission.to_revolution_length, total, around, Nat.add_mod, candidate.place, ← Nat.add_mod]

theorem accepts (candidate : Candidate track byte gap m q shift) (ringed : Ringed track byte gap)
    {found : UInt8} (within : q + 1002 ≤ 2 * (6001 + gap))
    (room : m + 16000 ≤ Cursor.defaultRevolutions * (16 * (6001 + gap)))
    (same : ∀ k, k < 1000 →
      splice shift (ringAt byte gap (q + k + 1)) (ringAt byte gap (q + k + 2)) = found) :
    ∃ stop, protec.look.Takes (turn track) Cursor.defaultRevolutions m
      (.accept ((track.offset + (16 * q + 2 * shift)) % (16 * (6001 + gap)), [found])) stop := by
  have length : (turn track).length = 16 * (6001 + gap) := by
    rw [Emission.to_revolution_length, ringed.placed.1]
  have long := ringed.long
  have behind : m % (turn track).length =
      (track.offset + (16 * q + 2 * shift) + 16) % (turn track).length := by
    have around : track.offset + (16 * (q + 1) + 2 * shift) =
        track.offset + (16 * q + 2 * shift) + 16 := by
      omega
    rw [length, candidate.place, around]
  have asked := Reader.takes_start (R := Cursor.defaultRevolutions) (by omega) behind
  rw [length] at asked
  have filled : (turn track).bytesFrom (m + 16 * protec.signature.length) protec.checked =
      List.replicate protec.checked found := by
    have unsigned : protec.signature.length = 0 := rfl
    have checked : protec.checked = 1000 := rfl
    rw [unsigned, checked]
    rw [bytes_from_replicate]
    intro k inside
    rw [Nat.mul_zero, Nat.add_zero, candidate.reads ringed k (by omega), same k inside]
  have least : protec.minimum.getD 0 = 107200 := rfl
  have extent : protec.extent = 16000 := rfl
  exact look_takes (by decide) (by rw [length, extent]; exact room) asked rfl (.inl rfl) filled
    (by rw [length, least]; omega)

theorem rejects (candidate : Candidate track byte gap m q shift) (ringed : Ringed track byte gap)
    {k : Nat} (inside : k + 1 < 1000) (within : q + k + 3 < 2 * (6001 + gap))
    (room : m + 16 * (k + 2) ≤ Cursor.defaultRevolutions * (16 * (6001 + gap)))
    (differs : splice shift (ringAt byte gap (q + k + 2)) (ringAt byte gap (q + k + 3)) ≠
      splice shift (ringAt byte gap (q + 1)) (ringAt byte gap (q + 2))) :
    ∃ why stop, protec.look.Takes (turn track) Cursor.defaultRevolutions m (.reject why) stop ∧
      stop ≤ m + 16 * (k + 2) := by
  have length : (turn track).length = 16 * (6001 + gap) := by
    rw [Emission.to_revolution_length, ringed.placed.1]
  have later := candidate.reads ringed (k + 1) within
  have first : (turn track).byteAt m =
      splice shift (ringAt byte gap (q + 1)) (ringAt byte gap (q + 2)) :=
    candidate.reads ringed 0 (by omega)
  refine look_breaks rfl rfl inside (by rw [length]; exact room) ?_
  rw [later, first]
  exact differs

end Candidate

end FloppyTrack.LongTrack.Protec
