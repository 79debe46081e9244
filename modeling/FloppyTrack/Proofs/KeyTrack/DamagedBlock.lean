import FloppyTrack.Proofs.Blocks
import FloppyTrack.Proofs.Bursts
import FloppyTrack.Proofs.KeyTrack

set_option autoImplicit false

namespace FloppyTrack.KeyTrack

-- A block without the CRC of the key, and what a look behind the data mark makes of it.
structure Refused (block : List UInt8) : Prop where
  crc : Crc16.update 0xffff (Encoding.mfm.decodeBlock 61 block) ≠ 0x010a
  look : ∀ (r : Revolution) (R n : Nat), n + 976 ≤ R * r.length → r.stretch n 976 = byteBits block →
    look.Takes r R n
      (.reject (.crc (Crc16.update 0xffff (Encoding.mfm.decodeBlock 61 block)))) (n + 976)

theorem block_decoded {block : List UInt8} (whole : block.length = size) :
    Encoding.mfm.decodeBlock 61 block = dataBytes block :=
  congrArg dataBytes (List.take_of_length_le (Nat.le_of_eq whole))

theorem wrong_crc_refused {block : List UInt8} (whole : block.length = size)
    (wrong : Crc16.update Crc16.initial (dataBytes block) ≠ crc) : Refused block := by
  have decoded := block_decoded whole
  refine ⟨by rw [decoded]; exact wrong, fun r R n room shown => ?_⟩
  have read : r.octets n size = block := by
    apply byte_bits_injective _ _ (by rw [Revolution.octets_length, whole])
    rw [octet_bits]
    exact shown
  have takes := look_takes room
  rw [read, if_neg wrong, ← decoded] at takes
  exact takes

theorem burst_refused {data changed : List UInt8} {start : Nat} (genuine : Genuine data)
    (whole : changed.length = size)
    (burst : Burst (byteBits (dataBytes data)) (byteBits (dataBytes changed)) start) :
    Refused changed := by
  have length : ∀ block : List UInt8, block.length = size → (byteBits (dataBytes block)).length = 488 := by
    intro block whole
    rw [byte_bits_length, data_bytes_length 61 block whole]
  refine wrong_crc_refused whole fun right => ?_
  have same := genuine.crc.trans right.symm
  rw [Crc16.update_fed, Crc16.update_fed] at same
  exact Crc16.burst_fed _ ((length data genuine.length).trans (length changed whole).symm) burst same

-- For any two texts, and for the block of any track that was accepted.
theorem bursts_detected :
    (∀ (crc : UInt16) (a b : List UInt8) (start : Nat), a.length = b.length →
      Burst (byteBits a) (byteBits b) start → Crc16.update crc a ≠ Crc16.update crc b) ∧
    ∀ (source : Revolution) (turns : Nat) (first track : Track),
      ((codec.decode first).run (Cursor.start source turns)).1.result = .ok track →
      ∀ (changed : List UInt8) (start : Nat), changed.length = 122 →
        Burst (byteBits (Encoding.mfm.decodeBlock 61 track.data))
          (byteBits (Encoding.mfm.decodeBlock 61 changed)) start → Refused changed := by
  constructor
  · intro crc a b start length burst
    rw [Crc16.update_fed, Crc16.update_fed]
    exact Crc16.burst_fed crc (by simp [length]) burst
  · intro source turns first track found changed start whole burst
    obtain ⟨data, genuine, rfl⟩ := decoded_genuine found
    have kept : (keep first data).data = data := rfl
    rw [kept, block_decoded genuine.length, block_decoded whole] at burst
    exact burst_refused genuine whole burst

-- The fourth and the nineteenth decoded bit of the marked block inverted.
def brokenBlock : List UInt8 :=
  [0x93, 0x51, 0x92, 0x4a, 0x04] ++ List.replicate 113 0 ++ [0x41, 0x44, 0x45, 0x44]

theorem broken_block_burst :
    Burst (byteBits (Encoding.mfm.decodeBlock 61 markedBlock.data))
      (byteBits (Encoding.mfm.decodeBlock 61 brokenBlock)) 3 := by
  apply Burst.of_parts <;> decide +kernel

theorem marked_found :
    ((codec.decode (Track.new .sevenCities .none)).run
      (Cursor.start (codec.emit markedBlock).toRevolution 3)).1.result = .ok markedBlock := by
  rw [← Codec.outcome_run]
  exact regenerated (Track.new .sevenCities .none) (Track.new .sevenCities .none) marked_genuine

theorem broken_block_refused :
    Crc16.update 0xffff [0x31, 0x32, 0x33] ≠ Crc16.update 0xffff [0x39, 0x32, 0x23] ∧
      Refused brokenBlock := by
  have text : Burst (byteBits [0x31, 0x32, 0x33]) (byteBits [0x39, 0x32, 0x23]) 4 := by
    apply Burst.of_parts <;> decide
  exact ⟨bursts_detected.1 0xffff _ _ 4 rfl text,
    bursts_detected.2 _ 3 _ markedBlock marked_found brokenBlock 3 (by decide) broken_block_burst⟩

end FloppyTrack.KeyTrack
