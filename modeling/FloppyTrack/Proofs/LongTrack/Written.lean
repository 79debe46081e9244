import FloppyTrack.Proofs.LongTrack
import FloppyTrack.Proofs.Turn

set_option autoImplicit false

namespace FloppyTrack.LongTrack

def payload (t : LongTrack) (track : Track) : List UInt8 :=
  t.signature ++ List.replicate (t.repeatCount track.total) (t.fillByte track)

def head (t : LongTrack) (mark : Sync) : List Bool := Bits.ofNat t.markBits mark.value.toNat

variable {t : LongTrack} {mark : Sync}

@[simp] theorem head_length : (t.head mark).length = t.markBits := Bits.of_nat_length _ _

@[simp] theorem payload_length (track : Track) :
    (t.payload track).length = t.signature.length + t.repeatCount track.total := by
  simp [payload]

-- The cells in front of the payload.
def lead (t : LongTrack) : List Bool :=
  match t.mark with
  | some mark => t.head mark
  | none => []

theorem lead_marked (marked : t.mark = some mark) : t.lead = t.head mark := by
  rw [lead, marked]

theorem emit_leads (t : LongTrack) (track : Track) :
    (t.codec.emit track).Lays t.lead (byteBits (t.payload track)) ∧
      (t.codec.emit track).total = track.total ∧ (t.codec.emit track).offset = track.offset := by
  have written : ∃ e : Emission, t.encode track (Emission.start track.total track.offset) =
      (e.block .mfm t.signature).block .mfm
        (List.replicate (t.repeatCount track.total) (t.fillByte track)) ∧
      e.Lays t.lead [] ∧ e.total = track.total ∧ e.offset = track.offset := by
    rw [encode, lead]
    cases t.mark with
    | none => exact ⟨_, rfl, ⟨rfl⟩, rfl, rfl⟩
    | some mark =>
      exact ⟨_, rfl, Emission.lays_head track.total track.offset t.markBits mark.value.toNat,
        Emission.head_start track.total track.offset t.markBits mark.value.toNat⟩
  obtain ⟨e, encoded, led, turn, place⟩ := written
  obtain ⟨signed, total, offset⟩ := Emission.write_more led .mfm (by decide) (byteBits t.signature)
  obtain ⟨filled, total', offset'⟩ := Emission.write_more signed .mfm (by decide)
    (byteBits (List.replicate (t.repeatCount track.total) (t.fillByte track)))
  rw [payload, byte_bits_append]
  change (t.encode track _).Lays _ _ ∧ (t.encode track _).total = _ ∧ (t.encode track _).offset = _
  rw [encoded]
  exact ⟨filled, total'.trans (total.trans turn), offset'.trans (offset.trans place)⟩

theorem emit_lays (marked : t.mark = some mark) (track : Track) :
    (t.codec.emit track).Lays (t.head mark) (byteBits (t.payload track)) ∧
      (t.codec.emit track).total = track.total ∧ (t.codec.emit track).offset = track.offset := by
  rw [← lead_marked marked]
  exact emit_leads t track

-- Cells written for a track that is regenerated as a turn of `total` cells.
def writtenCells (t : LongTrack) (total : Nat) : Nat :=
  t.lead.length + 16 * (t.signature.length + t.repeatCount total)

theorem emit_size (t : LongTrack) (track : Track) :
    (t.codec.emit track).size = t.writtenCells track.total ∧
      (t.codec.emit track).total = track.total := by
  obtain ⟨lays, total, -⟩ := emit_leads t track
  refine ⟨?_, total⟩
  rw [Emission.lays_size lays, byte_bits_length, payload_length, writtenCells]
  omega

@[simp] theorem emit_length (marked : t.mark = some mark) (track : Track) :
    (t.codec.emit track).toRevolution.length = track.total := by
  rw [Emission.to_revolution_length, (emit_lays marked track).2.1]

theorem payload_placed (marked : t.mark = some mark) (track : Track) (k : Nat)
    (within : k ≤ (t.payload track).length) (fits : t.markBits + 16 * k ≤ track.total) :
    (t.codec.emit track).toRevolution.bytesFrom (track.offset + t.markBits) k =
      (t.payload track).take k := by
  obtain ⟨lays, total, offset⟩ := emit_lays marked track
  have size : ((t.payload track).take k).length = k := List.length_take_of_le within
  have data := Emission.data_placed lays (8 * k) (by rw [head_length, total]; omega)
  rw [head_length, offset, ← List.take_append_drop k (t.payload track), byte_bits_append,
    List.append_assoc, List.take_left' (by rw [byte_bits_length, size])] at data
  have bytes := bytes_from_eq (t.codec.emit track).toRevolution (track.offset + t.markBits)
    ((t.payload track).take k)
  rw [size] at bytes
  exact bytes data

-- What the look at the mark finds, on whichever turn it is.
theorem look_written {byte : UInt8} {R n : Nat} (marked : t.mark = some mark) (track : Track)
    (turns : 0 < R) (known : t.fill = .captured ∨ t.fill = .fixed byte)
    (fill : t.fillByte track = byte) (enough : t.checked ≤ t.repeatCount track.total)
    (fits : t.markBits + t.extent ≤ track.total) (long : t.minimum.getD 0 ≤ track.total)
    (nonempty : 0 < track.total) (place : n % track.total = (track.offset + t.markBits) % track.total)
    (room : n + t.extent ≤ R * track.total) :
    ∃ stop, t.look.Takes (t.codec.emit track).toRevolution R n
      (.accept (track.offset % track.total, t.dataOf byte)) stop := by
  have length := emit_length marked track
  have placed := payload_placed marked track (t.signature.length + t.checked)
    (by rw [payload_length]; omega) fits
  rw [← length] at place nonempty
  have signature : (t.payload track).take (t.signature.length + t.checked) =
      t.signature ++ List.replicate t.checked byte := by
    rw [payload, fill, List.take_length_add_append, List.take_replicate, Nat.min_eq_left enough]
  rw [← bytes_from_congr _ _ _ _ place, bytes_from_append, signature] at placed
  obtain ⟨signed, filled⟩ := List.append_inj placed (by simp)
  rw [← length] at long room
  have asked := Reader.takes_start (R := R) nonempty place
  rw [length] at asked
  exact look_takes turns room asked signed known filled long

end FloppyTrack.LongTrack
