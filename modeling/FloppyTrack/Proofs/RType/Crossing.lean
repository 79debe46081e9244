import Mathlib.Data.Nat.Bitwise
import FloppyTrack.Proofs.RType.RoundTrip

set_option autoImplicit false

namespace FloppyTrack.RType

theorem take_past (front back : List Bool) (n k : Nat) (length : front.length = n) :
    (front ++ back).take (n + k) = front ++ back.take k := by
  rw [← length]
  exact List.take_length_add_append k

section
variable {r : Revolution} {n : Nat}

theorem some_carried_A :
    (∃ data, blockA.Carries r n data) ↔
      r.dataBits n 8 = Bits.ofNat 8 0 ∧ groupSum 2985 (r.dataBits (n + 16) 47760) = 0 := by
  obtain ⟨size, block⟩ := Encoding.split_read r (n + 48) (show 11936 = 2 * 5968 from rfl)
  have sum := split_sum 1492 _ size
  rw [block] at sum
  have cells : r.dataBits (n + 16) 47760 = r.dataBits (n + 16) 16 ++ r.dataBits (n + 48) (8 * 5968) :=
    r.data_bits_add (n + 16) 16 (8 * 5968)
  have word : Bits.toNat (r.dataBits (n + 16) 16) = oddHalf (r.latest (n + 48)) :=
    congrArg Bits.toNat (data_word_bits r (n + 16))
  rw [cells, show 2985 = 1 + 2 * 1492 from rfl, group_sum_append 1 (2 * 1492) _ _ (by simp),
    group_sum_one _ (by simp), word, sum, Nat.xor_eq_zero_iff, ← masked_half_iff, marker_bits,
    checksum_masked]
  constructor
  · rintro ⟨data, carries⟩
    obtain ⟨marker, stored, payload⟩ := (carries_A_iff data).mp carries
    exact ⟨marker, by rw [← payload, stored]⟩
  · rintro ⟨marker, stored⟩
    exact ⟨_, (carries_A_iff _).mpr ⟨marker, stored.symm, rfl⟩⟩

theorem marked_even_bits (word : UInt32) :
    Encoding.evenBits 32 (word ||| evenMarker).toNat = List.replicate 16 true := by
  have marker : Encoding.evenBits 32 evenMarker.toNat = List.replicate 16 true := by decide
  have set : ∀ i, i < 32 → i % 2 = 0 → evenMarker.toNat.testBit (i + 1) = true := by decide
  rw [← marker, Encoding.evenBits, Encoding.evenBits, Encoding.odd_bits_eq_iff]
  intro i inside even
  rw [Nat.testBit_div_two, Nat.testBit_div_two, UInt32.toNat_or, Nat.testBit_or, set i inside even,
    Bool.or_true]

theorem sum_B_iff (stored : UInt32) (data : List UInt8) :
    stored = checksumB data ↔
      Encoding.evenBits 32 stored.toNat = List.replicate 16 true ∧
        oddHalf stored = oddHalf (checksum data) := by
  have even : Encoding.evenBits 32 (checksumB data).toNat = List.replicate 16 true :=
    marked_even_bits _
  have odd : oddHalf (checksumB data) = oddHalf (checksum data) := by
    rw [← masked_half_iff, checksum_masked]
    exact ((stored_iff _ data).mpr rfl).2
  rw [← odd, ← even]
  constructor
  · rintro rfl
    exact ⟨rfl, rfl⟩
  · rintro ⟨evenSame, oddSame⟩
    exact word_of_halves _ _ evenSame (Bits.to_nat_injective _ _ (by simp) oddSame)

theorem some_carried_B :
    (∃ data, blockB.Carries r n data) ↔
      r.dataBits n 8 = Bits.ofNat 8 0 ∧
        r.dataBits (n + 104848) 16 = List.replicate 16 true ∧
          Bits.toNat (r.dataBits (n + 104880) 16) = groupSum 3276 (r.dataBits (n + 16) 52416) := by
  obtain ⟨size, block⟩ := Encoding.longs_read r (n + 16) (show 13104 = 2 * 6552 from rfl)
  have computed := long_sum 1638 _ size
  rw [block] at computed
  obtain ⟨four, sum⟩ := Encoding.split_read r (n + 104848) (show 8 = 2 * 4 from rfl)
  have halves := r.data_bits_add (n + 104848) 16 16
  rw [split_long _ four] at sum
  have later : n + 104848 + 2 * 16 = n + 104880 := by omega
  rw [later] at halves
  obtain ⟨even, odd⟩ := List.append_inj (sum.trans halves) (by simp [Encoding.evenBits])
  have stored : oddHalf (long (joinSplit 4 (r.octets (n + 104848) 8))) =
      Bits.toNat (r.dataBits (n + 104880) 16) := congrArg Bits.toNat odd
  have judged := sum_B_iff (long (joinSplit 4 (r.octets (n + 104848) 8)))
    (joinLongs 6552 (r.octets (n + 16) 13104))
  rw [even, stored, ← computed] at judged
  rw [marker_bits]
  constructor
  · rintro ⟨data, carries⟩
    obtain ⟨marker, payload, same⟩ := (carries_B_iff data).mp carries
    exact ⟨marker, judged.mp (payload ▸ same)⟩
  · rintro ⟨marker, same⟩
    exact ⟨_, (carries_B_iff _).mpr ⟨marker, rfl, judged.mpr same⟩⟩

end

-- Of the payload, A takes the first halves of one more long for its checksum.
def passesAsA (data : List UInt8) : Prop :=
  checksum (data.take 5968) = (long (data.drop 5968) >>> 1) &&& oddMask

instance (data : List UInt8) : Decidable (passesAsA data) := inferInstanceAs (Decidable (_ = _))

theorem front_long_bits (data : List UInt8) (four : 4 ≤ data.length) :
    (Encoding.longBits data).take 16 = Encoding.evenBits 32 (long data).toNat := by
  have group : (data.take 4).length = 4 := by rw [List.length_take]; omega
  have head : long (data.take 4) = long data := by
    match data, four with
    | a :: b :: c :: d :: rest, _ => rfl
  have bits := Encoding.long_bits_four _ (data.drop 4) group
  rw [List.take_append_drop, split_long _ group, head, List.append_assoc] at bits
  rw [bits]
  exact List.take_left' (by simp [Encoding.evenBits])

theorem passes_A_iff (data : List UInt8) (size : data.length = 6552) :
    passesAsA data ↔ groupSum 2985 ((Encoding.longBits data).take 47760) = 0 := by
  have front : (data.take 5968).length = 4 * 1492 := by rw [List.length_take, size]; rfl
  have back : 4 ≤ (data.drop 5968).length := by rw [List.length_drop, size]; decide
  have bits := Encoding.long_bits_append _ (data.drop 5968) 1492 front
  have length : (Encoding.longBits (data.take 5968)).length = 47744 := by
    rw [Encoding.long_bits_length, front]
  have taken : (Encoding.longBits data).take 47760 =
      Encoding.longBits (data.take 5968) ++ Encoding.evenBits 32 (long (data.drop 5968)).toNat := by
    rw [← front_long_bits _ back, ← List.take_append_drop 5968 data, bits, List.take_append_drop,
      List.take_append, length, List.take_of_length_le (by rw [length]; decide)]
  have even : Bits.toNat (Encoding.evenBits 32 (long (data.drop 5968)).toNat) =
      oddHalf (long (data.drop 5968) >>> 1) := even_half_shift _
  rw [taken, show 2985 = 2 * 1492 + 1 from rfl, group_sum_append (2 * 1492) 1 _ _ (by rw [length]),
    long_sum 1492 _ front, group_sum_one _ (by simp [Encoding.evenBits]), even, Nat.xor_eq_zero_iff,
    ← masked_half_iff, checksum_masked, passesAsA]

theorem A_carried_on_B_iff (track : Track) (offset : Nat) (size : track.data.length = 6552) :
    (∃ data, blockA.Carries (variantB.written track 105500 offset) (offset + mark.bits) data) ↔
      passesAsA track.data := by
  have count : variantB.count = 52456 := rfl
  have whole := variantB.data_written track 105500 offset (8 + 47760) size (by omega) (by decide)
  have long : 47760 ≤ (Encoding.longBits track.data).length := by
    rw [Encoding.long_bits_length, size]; decide
  have bits : (variantB.bits track.data).take (8 + 47760) =
      Bits.ofNat 8 0 ++ (Encoding.longBits track.data).take 47760 := by
    change (Bits.ofNat 8 0 ++ (_ ++ _)).take (8 + 47760) = _
    rw [take_past _ _ 8 _ (Bits.of_nat_length 8 0), List.take_append_of_le_length long]
  rw [Revolution.data_bits_add, bits] at whole
  obtain ⟨marker, block⟩ := List.append_inj whole (by simp)
  rw [some_carried_A, passes_A_iff _ size, marker, block]
  exact and_iff_right rfl

-- The block of A is shorter, so that of B goes on over the gap and around to the mark.
def spill (data : List UInt8) : List Bool :=
  List.replicate 2299 false ++ (Bits.ofNat 8 0x71 ++ blockA.bits data)

def passesAsB (data : List UInt8) : Prop :=
  ((spill data).drop 4656).take 16 = List.replicate 16 true ∧
    Bits.toNat (((spill data).drop 4672).take 16) = groupSum 291 ((spill data).take 4656)

instance (data : List UInt8) : Decidable (passesAsB data) := inferInstanceAs (Decidable (_ ∧ _))

theorem mark_data (r : Revolution) (n : Nat) (seen : r.stretch n mark.bits = mark.cells) :
    r.dataBits n 8 = Bits.ofNat 8 0x71 := by
  have cells := r.data_cells_stretch n 8
  have width : 2 * 8 = mark.bits := rfl
  rw [width, seen] at cells
  rw [← cells]
  decide

theorem spilled (track : Track) (offset : Nat) (size : track.data.length = 5968) :
    (variantA.written track 100150 offset).dataBits (offset + mark.bits) 52456 =
      (blockA.bits track.data ++ spill track.data).take 52456 := by
  have count : (blockA.bits track.data).length = 47768 := variantA.bits_length track.data size
  have lays : (variantA.encode track (Emission.start 100150 offset)).Lays mark.cells
      (blockA.bits track.data) := variantA.lays track 100150 offset
  obtain ⟨total, start⟩ := variantA.placed track 100150 offset
  have gap : (variantA.encode track (Emission.start 100150 offset)).gapBits = 2299 := by
    rw [Emission.gapBits, total, Emission.lays_size lays, Sync.cells_length, count]
    rfl
  have filled : (blockA.bits track.data ++ List.replicate 2299 false).length = 50067 := by
    rw [List.length_append, count, List.length_replicate]
  -- The turn ends with the gap, and the next one starts with the mark.
  have front : (variantA.written track 100150 offset).dataBits (offset + mark.bits) 50067 =
      blockA.bits track.data ++ List.replicate 2299 false := by
    have placed := Emission.data_placed lays 50067 (by rw [total]; decide)
    rwa [start, gap, List.take_of_length_le (Nat.le_of_eq filled), Sync.cells_length] at placed
  have turn : (offset + mark.bits + 2 * 50067) % (variantA.written track 100150 offset).length =
      offset % (variantA.written track 100150 offset).length := by
    have bits : mark.bits = 16 := rfl
    have around : offset + mark.bits + 2 * 50067 = offset + 100150 := by omega
    rw [variantA.written_length, around, Nat.add_mod_right]
  have back : (variantA.written track 100150 offset).dataBits (offset + mark.bits + 2 * 50067)
      (8 + 2381) = Bits.ofNat 8 0x71 ++ (blockA.bits track.data).take 2381 := by
    have again := variantA.data_written track 100150 offset 2381 size (by decide) (by decide)
    have shown := mark_data _ _ (variantA.mark_written track 100150 offset (by decide))
    rw [Revolution.data_bits_congr _ _ _ _ turn, Revolution.data_bits_add, shown]
    exact congrArg _ again
  rw [show 52456 = 50067 + (8 + 2381) from rfl, Revolution.data_bits_add, front, back, spill,
    ← List.append_assoc (blockA.bits track.data), take_past _ _ 50067 _ filled,
    take_past _ _ 8 _ (Bits.of_nat_length 8 0x71)]

theorem block_A_sum (data : List UInt8) (size : data.length = 5968) :
    groupSum 2985 (Encoding.oddBits 32 (checksum data).toNat ++ Encoding.splitBits data) = 0 := by
  rw [show 2985 = 1 + 2 * 1492 from rfl, group_sum_append 1 (2 * 1492) _ _ (by simp),
    group_sum_one _ (by simp), split_sum 1492 data size]
  exact Nat.xor_self _

theorem B_carried_on_A_iff (track : Track) (offset : Nat) (size : track.data.length = 5968) :
    (∃ data, blockB.Carries (variantA.written track 100150 offset) (offset + mark.bits) data) ↔
      passesAsB track.data := by
  have whole := spilled track offset size
  generalize variantA.written track 100150 offset = r at whole ⊢
  generalize offset + mark.bits = n at whole ⊢
  have count : (blockA.bits track.data).length = 47768 := variantA.bits_length track.data size
  have long : 4688 ≤ (spill track.data).length := by
    rw [spill, List.length_append, List.length_append, count]
    omega
  have lead : ((spill track.data).take 4656).length = 4656 := by
    rw [List.length_take]
    omega
  have past := take_past _ (spill track.data) 47768 (4656 + (16 + 16)) count
  have parts : (spill track.data).take (4656 + (16 + 16)) = (spill track.data).take 4656 ++
      (((spill track.data).drop 4656).take 16 ++ ((spill track.data).drop 4672).take 16) := by
    rw [List.take_add, List.take_add, List.drop_drop]
  rw [parts] at past
  have back := r.data_bits_add (n + 16) 52416 (16 + 16)
  have last := r.data_bits_add (n + 104848) 16 16
  have behind : n + 16 + 2 * 52416 = n + 104848 := by omega
  have later : n + 104848 + 2 * 16 = n + 104880 := by omega
  rw [behind] at back
  rw [later] at last
  have front : r.dataBits n 52456 = r.dataBits n 8 ++ r.dataBits (n + 16) (52416 + (16 + 16)) :=
    r.data_bits_add n 8 (52416 + (16 + 16))
  rw [front, back, last, show 52456 = 47768 + (4656 + (16 + 16)) from rfl, past] at whole
  have regrouped : blockA.bits track.data ++ ((spill track.data).take 4656 ++
        (((spill track.data).drop 4656).take 16 ++ ((spill track.data).drop 4672).take 16)) =
      Bits.ofNat 8 0 ++ (((Encoding.oddBits 32 (checksum track.data).toNat ++
        Encoding.splitBits track.data) ++ (spill track.data).take 4656) ++
        (((spill track.data).drop 4656).take 16 ++ ((spill track.data).drop 4672).take 16)) := by
    simp only [blockA, List.append_assoc]
  rw [regrouped] at whole
  obtain ⟨marker, rest⟩ := List.append_inj whole (by simp)
  obtain ⟨block, stored⟩ := List.append_inj rest (by simp [size, lead])
  obtain ⟨even, odd⟩ := List.append_inj stored (by
    rw [Revolution.data_bits_length, List.length_take, List.length_drop]
    omega)
  -- The groups up to the end of A's own block cancel, so the spill alone decides.
  have sum := group_sum_append 2985 291 (Encoding.oddBits 32 (checksum track.data).toNat ++
    Encoding.splitBits track.data) ((spill track.data).take 4656) (by simp [size])
  rw [block_A_sum track.data size, Nat.zero_xor] at sum
  rw [some_carried_B, marker, block, even, odd, show 3276 = 2985 + 291 from rfl, sum]
  exact and_iff_right rfl

end FloppyTrack.RType
