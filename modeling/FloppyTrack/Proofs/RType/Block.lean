import FloppyTrack.Codec.RType
import FloppyTrack.Proofs.Recognition
import FloppyTrack.Proofs.Clocking
import FloppyTrack.Proofs.Sums

set_option autoImplicit false

namespace FloppyTrack.RType

theorem mark_proper : mark.Proper := ⟨.inl rfl, by decide⟩

theorem mark_leads : mark.cells.head? = some true := by decide

theorem mark_behind {r : Revolution} {n : Nat} (seen : mark.seenAt r n = true) : mark.bits ≤ n := by
  by_cases early : n < mark.bits
  · rw [Sync.not_seen_early mark_proper mark_leads n early] at seen
    cases seen
  · exact Nat.le_of_not_lt early

-- The mark leaves out a clock, and so stands apart from all cells written with theirs.
theorem mark_gap : ClearOnceAt mark.cells 11 := by
  constructor <;> decide

theorem split_long (data : List UInt8) (four : data.length = 4) :
    Encoding.splitBits data =
      Encoding.evenBits 32 (long data).toNat ++ Encoding.oddBits 32 (long data).toNat := by
  match data, four with
  | [a, b, c, d], _ =>
    have halves := Encoding.long_halves a b c d
    rw [Encoding.split_bits_halves, halves.1, halves.2]
    rfl

theorem stored_iff (stored : UInt32) (data : List UInt8) :
    stored &&& ~~~oddMask = evenMarker ∧ stored &&& oddMask = checksum data ↔
      stored = checksumB data := by
  have masked := checksum_masked data
  constructor
  · rintro ⟨even, odd⟩
    rw [checksumB, masked, ← odd, ← even, mask_parts]
  · rintro rfl
    have disjoint : oddMask &&& ~~~oddMask = 0 := by decide
    have markerOdd : evenMarker &&& oddMask = 0 := by decide
    have markerEven : evenMarker &&& ~~~oddMask = evenMarker := by decide
    constructor
    · rw [checksumB, or_masked, UInt32.and_assoc, disjoint, markerEven, UInt32.and_zero,
        UInt32.zero_or]
    · rw [checksumB, or_masked, masked, masked, markerOdd, UInt32.or_zero]

structure Block where
  format : Format
  size : Nat
  count : Nat
  bits : List UInt8 → List Bool

def blockA : Block where
  format := .rTypeA
  size := 5968
  count := 47768
  bits data := Bits.ofNat 8 0 ++ (Encoding.oddBits 32 (checksum data).toNat ++ Encoding.splitBits data)

def blockB : Block where
  format := .rTypeB
  size := 6552
  count := 52456
  bits data :=
    Bits.ofNat 8 0 ++ (Encoding.longBits data ++ (Encoding.evenBits 32 (checksumB data).toNat ++
      Encoding.oddBits 32 (checksumB data).toNat))

namespace Block

structure Carries (b : Block) (r : Revolution) (n : Nat) (data : List UInt8) : Prop where
  size : data.length = b.size
  bits : r.dataBits n b.count = b.bits data

-- What a look behind a mark, with `n` cells read, may come to.
def Judges (b : Block) (r : Revolution) (R n : Nat) : Finding (Nat × List UInt8) → Prop
  | .accept (offset, data) => b.Carries r n data ∧ offset = (n - mark.bits) % r.length
  | .reject _ => ∀ data, ¬ b.Carries r n data
  | .giveUp error => error = .noMatch b.format ∧ R * r.length < n + 2 * b.count

-- Where a look stops that rejects: behind the marker, or behind the whole block if that is right.
def Stops (b : Block) (r : Revolution) (n stop : Nat) : Finding (Nat × List UInt8) → Prop
  | .reject _ => stop = if r.byteAt n = 0 then n + 2 * b.count else n + 16
  | _ => True

end Block

section
variable {r : Revolution} {R n : Nat}

theorem marker_bits : r.dataBits n 8 = Bits.ofNat 8 0 ↔ r.byteAt n = 0 := by
  rw [← data_byte_bits, Bits.of_nat_eq_iff, Nat.mod_eq_of_lt (r.byteAt n).toNat_lt,
    ← UInt8.toNat_inj]
  rfl

-- What a block carries is what its look joins, so a block carries one payload at most.
theorem carries_A_iff (data : List UInt8) :
    blockA.Carries r n data ↔
      r.byteAt n = 0 ∧ checksum data = r.latest (n + 48) &&& oddMask ∧
        data = joinSplit 5968 (r.octets (n + 48) 11936) := by
  obtain ⟨size, block⟩ := Encoding.split_read r (n + 48) (show 11936 = 2 * 5968 from rfl)
  have cells : r.dataBits n 47768 =
      r.dataBits n 8 ++ (r.dataBits (n + 16) 16 ++ r.dataBits (n + 48) (8 * 5968)) := by
    rw [show 47768 = 8 + (16 + 8 * 5968) from rfl, Revolution.data_bits_add, Revolution.data_bits_add]
  have word := masked_eq_iff (checksum data) (r.latest (n + 48))
  rw [checksum_masked] at word
  constructor
  · rintro ⟨length, bits⟩
    change r.dataBits n 47768 = _ ++ (_ ++ _) at bits
    rw [cells] at bits
    obtain ⟨marker, rest⟩ := List.append_inj bits (by simp)
    obtain ⟨stored, payload⟩ := List.append_inj rest (by simp)
    refine ⟨marker_bits.mp marker, word.mpr ?_, ?_⟩
    · rw [← stored, data_word_bits]
    · rw [← block] at payload
      exact (Encoding.split_bits_injective _ _ (size.trans length.symm) payload).symm
  · rintro ⟨marker, stored, payload⟩
    refine ⟨(congrArg List.length payload).trans size, ?_⟩
    change r.dataBits n 47768 = _ ++ (_ ++ _)
    rw [cells, marker_bits.mpr marker, data_word_bits, ← word.mp stored, ← block, ← payload]

theorem carries_B_iff (data : List UInt8) :
    blockB.Carries r n data ↔
      r.byteAt n = 0 ∧ data = joinLongs 6552 (r.octets (n + 16) 13104) ∧
        long (joinSplit 4 (r.octets (n + 104848) 8)) = checksumB data := by
  obtain ⟨size, block⟩ := Encoding.longs_read r (n + 16) (show 13104 = 2 * 6552 from rfl)
  obtain ⟨four, sum⟩ := Encoding.split_read r (n + 104848) (show 8 = 2 * 4 from rfl)
  rw [split_long _ four] at sum
  have front : r.dataBits n 52456 = r.dataBits n 8 ++ r.dataBits (n + 16) (8 * 6552 + 8 * 4) :=
    r.data_bits_add n 8 (8 * 6552 + 8 * 4)
  have back := r.data_bits_add (n + 16) (8 * 6552) (8 * 4)
  have behind : n + 16 + 2 * (8 * 6552) = n + 104848 := by omega
  rw [behind] at back
  rw [back] at front
  constructor
  · rintro ⟨length, bits⟩
    change r.dataBits n 52456 = _ ++ (_ ++ _) at bits
    rw [front] at bits
    obtain ⟨marker, rest⟩ := List.append_inj bits (by simp)
    have long : 8 * 6552 = 8 * data.length := congrArg (8 * ·) length.symm
    obtain ⟨payload, stored⟩ := List.append_inj rest (by simpa using long)
    rw [← sum] at stored
    obtain ⟨even, odd⟩ := List.append_inj stored (by simp [Encoding.evenBits])
    rw [← block] at payload
    exact ⟨marker_bits.mp marker,
      (Encoding.long_bits_injective _ _ (size.trans length.symm) payload).symm,
      word_of_halves _ _ even odd⟩
  · rintro ⟨marker, payload, stored⟩
    refine ⟨(congrArg List.length payload).trans size, ?_⟩
    change r.dataBits n 52456 = _ ++ (_ ++ _)
    rw [front, marker_bits.mpr marker, ← block, ← payload, ← sum, stored]

theorem takes_offset (nonempty : 0 < r.length) (behind : mark.bits ≤ n) :
    (Reader.asks (·.startOfLast mark.bits)).Takes r R n ((n - mark.bits) % r.length) n :=
  Reader.takes_asks fun _ stands => stands.start_of_last nonempty mark.bits behind

theorem ends_short (b : Block) {m : Nat} (short : R * r.length < n + 2 * b.count) :
    (pure (.giveUp (.noMatch b.format)) : Reader (Finding (Nat × List UInt8))).Ends r R m
      fun finding stop => b.Judges r R n finding ∧ b.Stops r n stop finding :=
  Reader.ends_pure ⟨⟨rfl, short⟩, trivial⟩

theorem ends_A (nonempty : 0 < r.length) (behind : mark.bits ≤ n) :
    lookA.Ends r R n fun finding stop =>
      blockA.Judges r R n finding ∧ blockA.Stops r n stop finding := by
  have size : geometryA.size = 5968 := rfl
  have count : blockA.count = 47768 := rfl
  refine Reader.ends_bind (takes_offset nonempty behind) ?_
  by_cases room8 : n + 16 ≤ R * r.length
  · refine Reader.ends_bind (Reader.takes_byte room8) ?_
    by_cases zero : r.byteAt n = 0
    · rw [zero]
      by_cases room32 : n + 48 ≤ R * r.length
      · refine Reader.ends_bind (Reader.takes_bits 32 room32) ?_
        by_cases room : n + 48 + 8 * (2 * 5968) ≤ R * r.length
        · refine Reader.ends_bind (Reader.takes_bytes (2 * 5968) room) ?_
          have raw : (r.octets (n + 48) (2 * 5968)).length = 2 * 5968 := Revolution.octets_length ..
          have block : Encoding.evenOdd.decodeBlock 5968 (r.octets (n + 48) (2 * 5968)) =
              joinSplit 5968 (r.octets (n + 48) 11936) :=
            congrArg (joinSplit 5968) (List.take_of_length_le (Nat.le_of_eq raw))
          dsimp only
          rw [size, block]
          split <;> rename_i sum
          · exact Reader.ends_pure ⟨⟨(carries_A_iff _).mpr ⟨zero, sum, rfl⟩, rfl⟩, trivial⟩
          · have stop : n + 48 + 8 * (2 * 5968) = n + 2 * blockA.count := by omega
            refine Reader.ends_pure ⟨fun data carried => ?_, stop.trans (if_pos zero).symm⟩
            obtain ⟨-, stored, payload⟩ := (carries_A_iff data).mp carried
            exact sum (payload ▸ stored)
        · exact Reader.ends_bind (Reader.takes_no_bytes _ (by omega)) (ends_short blockA (by omega))
      · exact Reader.ends_bind (Reader.takes_no_bits 32 (by omega)) (ends_short blockA (by omega))
    · dsimp only
      rw [if_pos zero]
      refine Reader.ends_pure ⟨fun data carried => ?_, (if_neg zero).symm⟩
      exact zero ((carries_A_iff data).mp carried).1
  · exact Reader.ends_bind (Reader.takes_no_byte (by omega)) (ends_short blockA (by omega))

theorem ends_B (nonempty : 0 < r.length) (behind : mark.bits ≤ n) :
    lookB.Ends r R n fun finding stop =>
      blockB.Judges r R n finding ∧ blockB.Stops r n stop finding := by
  have size : geometryB.size = 6552 := rfl
  have count : blockB.count = 52456 := rfl
  refine Reader.ends_bind (takes_offset nonempty behind) ?_
  by_cases room8 : n + 16 ≤ R * r.length
  · refine Reader.ends_bind (Reader.takes_byte room8) ?_
    by_cases zero : r.byteAt n = 0
    · rw [zero]
      by_cases room : n + 16 + 8 * (2 * 6552) ≤ R * r.length
      · refine Reader.ends_bind (Reader.takes_bytes (2 * 6552) room) ?_
        dsimp only
        have behind : n + 16 + 8 * (2 * 6552) = n + 104848 := by omega
        rw [behind] at room ⊢
        by_cases room64 : n + 104848 + 8 * 8 ≤ R * r.length
        · refine Reader.ends_bind (Reader.takes_bytes 8 room64) ?_
          have raw : (r.octets (n + 104848) 8).length = 8 := Revolution.octets_length ..
          have block : Encoding.evenOdd.decodeBlock 4 (r.octets (n + 104848) 8) =
              joinSplit 4 (r.octets (n + 104848) 8) :=
            congrArg (joinSplit 4) (List.take_of_length_le (Nat.le_of_eq raw))
          have longs : Encoding.evenOddLongs.decodeBlock 6552 (r.octets (n + 16) (2 * 6552)) =
              joinLongs 6552 (r.octets (n + 16) 13104) := rfl
          dsimp only
          rw [size, block, longs]
          split <;> rename_i sum <;> rw [stored_iff] at sum
          · exact Reader.ends_pure ⟨⟨(carries_B_iff _).mpr ⟨zero, rfl, sum⟩, rfl⟩, trivial⟩
          · have stop : n + 104848 + 8 * 8 = n + 2 * blockB.count := by omega
            refine Reader.ends_pure ⟨fun data carried => ?_, stop.trans (if_pos zero).symm⟩
            obtain ⟨-, payload, stored⟩ := (carries_B_iff data).mp carried
            exact sum (payload ▸ stored)
        · exact Reader.ends_bind (Reader.takes_no_bytes _ (by omega)) (ends_short blockB (by omega))
      · exact Reader.ends_bind (Reader.takes_no_bytes _ (by omega)) (ends_short blockB (by omega))
    · dsimp only
      rw [if_pos zero]
      refine Reader.ends_pure ⟨fun data carried => ?_, (if_neg zero).symm⟩
      exact zero ((carries_B_iff data).mp carried).1
  · exact Reader.ends_bind (Reader.takes_no_byte (by omega)) (ends_short blockB (by omega))

end

theorem steady_A : lookA.Steady := by
  refine Reader.steady_bind (Reader.steady_start_of_last _) fun offset => ?_
  refine Reader.steady_bind Reader.steady_byte fun marker => ?_
  split
  · split
    · exact Reader.steady_pure _
    · refine Reader.steady_bind (Reader.steady_bits 32) fun word => ?_
      split
      · refine Reader.steady_bind (Reader.steady_bytes _) fun raw => ?_
        split
        · dsimp only
          split <;> exact Reader.steady_pure _
        · exact Reader.steady_pure _
      · exact Reader.steady_pure _
  · exact Reader.steady_pure _

theorem steady_B : lookB.Steady := by
  refine Reader.steady_bind (Reader.steady_start_of_last _) fun offset => ?_
  refine Reader.steady_bind Reader.steady_byte fun marker => ?_
  split
  · split
    · exact Reader.steady_pure _
    · refine Reader.steady_bind (Reader.steady_bytes _) fun block => ?_
      split
      · refine Reader.steady_bind (Reader.steady_bytes 8) fun sum => ?_
        split
        · dsimp only
          split <;> exact Reader.steady_pure _
        · exact Reader.steady_pure _
      · exact Reader.steady_pure _
  · exact Reader.steady_pure _

-- A block with the look that finds it behind the mark and the emission that writes it.
structure Variant extends Block where
  look : Reader (Finding (Nat × List UInt8))
  encode : Track → Emission → Emission
  bits_length : ∀ data, data.length = size → (bits data).length = count
  unique : ∀ (r : Revolution) (n : Nat) (a b : List UInt8),
    toBlock.Carries r n a → toBlock.Carries r n b → a = b
  steady : look.Steady
  judges : ∀ (r : Revolution) (R n : Nat), 0 < r.length → mark.bits ≤ n →
    look.Gives r R n (toBlock.Judges r R n)
  lays : ∀ (track : Track) (total offset : Nat),
    (encode track (Emission.start total offset)).Lays mark.cells (bits track.data)
  placed : ∀ (track : Track) (total offset : Nat),
    (encode track (Emission.start total offset)).total = total ∧
      (encode track (Emission.start total offset)).offset = offset

theorem lead_lays (total offset : Nat) :
    (encodeLead (Emission.start total offset)).Lays mark.cells (Bits.ofNat 8 0) ∧
      (encodeLead (Emission.start total offset)).total = total ∧
      (encodeLead (Emission.start total offset)).offset = offset := by
  have head := Emission.lays_head total offset 16 mark.value.toNat
  exact Emission.write_more head .mfm (by decide) (Bits.ofNat 8 0)

theorem encode_A_lays (track : Track) (total offset : Nat) :
    (encodeA track (Emission.start total offset)).Lays mark.cells (blockA.bits track.data) ∧
      (encodeA track (Emission.start total offset)).total = total ∧
      (encodeA track (Emission.start total offset)).offset = offset := by
  obtain ⟨lead, leadTotal, leadOffset⟩ := lead_lays total offset
  obtain ⟨sum, sumTotal, sumOffset⟩ := Emission.write_more lead .odd (by decide)
    (Encoding.oddBits 32 (checksum track.data).toNat)
  obtain ⟨block, blockTotal, blockOffset⟩ := Emission.write_more sum .evenOdd (by decide)
    (Encoding.splitBits track.data)
  rw [List.append_assoc] at block
  exact ⟨block, blockTotal.trans (sumTotal.trans leadTotal),
    blockOffset.trans (sumOffset.trans leadOffset)⟩

theorem encode_B_lays (track : Track) (total offset : Nat) :
    (encodeB track (Emission.start total offset)).Lays mark.cells (blockB.bits track.data) ∧
      (encodeB track (Emission.start total offset)).total = total ∧
      (encodeB track (Emission.start total offset)).offset = offset := by
  obtain ⟨lead, leadTotal, leadOffset⟩ := lead_lays total offset
  obtain ⟨block, blockTotal, blockOffset⟩ := Emission.write_more lead .evenOddLongs (by decide)
    (Encoding.longBits track.data)
  obtain ⟨sum, sumTotal, sumOffset⟩ := Emission.write_more block .evenOdd (by decide)
    (Encoding.evenBits 32 (checksumB track.data).toNat ++
      Encoding.oddBits 32 (checksumB track.data).toNat)
  rw [List.append_assoc] at sum
  exact ⟨sum, sumTotal.trans (blockTotal.trans leadTotal),
    sumOffset.trans (blockOffset.trans leadOffset)⟩

def variantA : Variant where
  toBlock := blockA
  look := lookA
  encode := encodeA
  bits_length data size := by simp [blockA, size]
  unique _ _ a b carriedA carriedB :=
    ((carries_A_iff a).mp carriedA).2.2.trans ((carries_A_iff b).mp carriedB).2.2.symm
  steady := steady_A
  judges _ _ _ some behind := Reader.ends_gives (ends_A some behind) fun _ _ ends => ends.1
  lays track total offset := (encode_A_lays track total offset).1
  placed track total offset := (encode_A_lays track total offset).2

def variantB : Variant where
  toBlock := blockB
  look := lookB
  encode := encodeB
  bits_length data size := by simp [blockB, Encoding.evenBits, size]
  unique _ _ a b carriedA carriedB :=
    ((carries_B_iff a).mp carriedA).2.1.trans ((carries_B_iff b).mp carriedB).2.1.symm
  steady := steady_B
  judges _ _ _ some behind := Reader.ends_gives (ends_B some behind) fun _ _ ends => ends.1
  lays track total offset := (encode_B_lays track total offset).1
  placed track total offset := (encode_B_lays track total offset).2

end FloppyTrack.RType
