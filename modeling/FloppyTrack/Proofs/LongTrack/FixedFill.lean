import FloppyTrack.Catalog
import FloppyTrack.Proofs.Copies
import FloppyTrack.Proofs.LongTrack.Written

set_option autoImplicit false

namespace FloppyTrack.LongTrack

-- The cells of one byte of a fill whose last bit is clear.
def fillCells (byte : UInt8) : List Bool := mfmCells false (Bits.ofNat 8 byte.toNat)

-- The cells behind the mark: the signature, `count + 1` bytes of the fill, and `gap` zeros.
def behindMark (t : LongTrack) (last : Bool) (byte : UInt8) (count gap : Nat) : List Bool :=
  mfmCells last (byteBits t.signature ++ Bits.ofNat 8 byte.toNat) ++ copies count (fillCells byte) ++
    copies gap [true, false]

theorem payload_cells (t : LongTrack) (last : Bool) {byte : UInt8} (count gap : Nat)
    (even : byte.toNat.testBit 0 = false) :
    mfmCells last (byteBits (t.signature ++ List.replicate (count + 1) byte) ++
      List.replicate gap false) = t.behindMark last byte count gap := by
  have ends : ∀ before, (Bits.ofNat 8 byte.toNat).getLastD before = false := fun _ => even
  have parts : byteBits (t.signature ++ List.replicate (count + 1) byte) ++ List.replicate gap false =
      byteBits t.signature ++ Bits.ofNat 8 byte.toNat ++ (copies count (Bits.ofNat 8 byte.toNat) ++
        List.replicate gap false) := by
    rw [byte_bits_append, byte_bits_replicate, copies_succ]
    simp only [List.append_assoc]
  rw [parts, mfm_cells_append, last_append, ends, mfm_cells_append false (copies _ _),
    mfm_copies false _ (ends false), last_copies false _ (ends false), mfm_zeros, ← List.append_assoc]
  rfl

-- The mark of the format, and no other cells of its turn, shows `core`. A mark may lead with cells
-- that stand at the end of the turn.
structure Alone (t : LongTrack) (mark : Sync) (byte : UInt8) (lead : Nat) (clear core : List Bool) :
    Prop where
  marked : t.mark = some mark
  proper : mark.Proper
  fill : t.fill = .fixed byte
  even : byte.toNat.testBit 0 = false
  short : lead ≤ 8
  cells : mark.cells = copies lead [true, false] ++ (clear ++ core)
  written : t.head mark = clear ++ core
  leads : core.head? = some true
  width : core.length ≤ 32
  once : ¬ core <:+: core.tail ++ t.behindMark ((clear ++ core).getLastD false) byte 3 17 ++
    (clear ++ core.dropLast)

-- How a track of the format must fill a turn for the rest of the format to be found on it.
structure Fills (t : LongTrack) (total gap : Nat) : Prop where
  turn : t.markBits + 16 * (t.signature.length + t.repeatCount total) + 2 * gap = total
  wide : 17 ≤ gap
  many : 4 ≤ t.repeatCount total
  enough : t.checked ≤ t.repeatCount total
  long : t.minimum.getD 0 ≤ total

-- The length that a new track of the format is committed with.
def committed (t : LongTrack) : Nat := t.total.getD Track.standardTotal

-- Where a track that was written at `offset` is found.
def foundAt (t : LongTrack) (offset : Nat) : Nat :=
  match t.mark with
  | some _ => offset % t.committed
  | none => t.committed / 2

-- The cells of a turn with `count + 1` bytes of the fill.
def turnCells (t : LongTrack) (byte : UInt8) (count gap : Nat) : List Bool :=
  t.lead ++ t.behindMark (t.lead.getLastD false) byte count gap

theorem turn_cells {t : LongTrack} {track : Track} {byte : UInt8} {gap : Nat}
    (known : t.fillByte track = byte) (even : byte.toNat.testBit 0 = false)
    (led : t.lead.length = t.markBits) (fills : t.Fills track.total gap) :
    ∃ count, 3 ≤ count ∧ (t.codec.emit track).filled.toList = t.turnCells byte count gap := by
  obtain ⟨lays, total, -⟩ := emit_leads t track
  have many := fills.many
  obtain ⟨count, counted⟩ : ∃ count, t.repeatCount track.total = count + 1 :=
    ⟨t.repeatCount track.total - 1, by omega⟩
  have fits : t.lead.length + 2 * ((byteBits (t.payload track)).length + gap) =
      (t.codec.emit track).total := by
    have turn := fills.turn
    rw [led, byte_bits_length, payload_length, total]
    omega
  have whole := Emission.filled_whole lays fits
  rw [payload, counted, known, payload_cells t _ count gap even] at whole
  exact ⟨count, by omega, whole⟩

namespace Alone

variable {t : LongTrack} {mark : Sync} {byte : UInt8} {lead gap : Nat} {clear core : List Bool}
  {track : Track}

-- Three bytes of the fill and seventeen zeros are as many as a window of 32 cells can tell apart.
theorem once_on_turn (alone : t.Alone mark byte lead clear core) {count : Nat} (many : 3 ≤ count)
    (wide : 17 ≤ gap) :
    ¬ core <:+: core.tail ++ t.behindMark ((clear ++ core).getLastD false) byte count gap ++
      (clear ++ core.dropLast) := by
  have short : core.length ≤ 2 * (fillCells byte).length := by
    rw [fillCells, mfm_cells_length, Bits.of_nat_length]
    exact alone.width
  have once := alone.once
  generalize clear ++ core.dropLast = back at once ⊢
  simp only [behindMark, ← List.append_assoc] at once ⊢
  exact apart_of_few_runs short many alone.width wide once

theorem lead_cells (alone : t.Alone mark byte lead clear core) : t.lead = clear ++ core :=
  (lead_marked alone.marked).trans alone.written

theorem stamped (alone : t.Alone mark byte lead clear core) (fills : t.Fills track.total gap) :
    ∃ rest, Stamped mark (copies lead [true, false]) clear core rest (t.codec.emit track) := by
  have known : t.fillByte track = byte := by rw [fillByte, alone.fill]
  have led : t.lead.length = t.markBits := by rw [lead_marked alone.marked, head_length]
  obtain ⟨count, many, whole⟩ := turn_cells known alone.even led fills
  rw [turnCells, alone.lead_cells] at whole
  refine ⟨_, whole, alone.cells, ?_, alone.leads, alone.once_on_turn many fills.wide⟩
  have cut : gap = gap - lead + lead := by
    have short := alone.short
    have wide := fills.wide
    omega
  rw [behindMark, cut, copies_add]
  exact List.suffix_append_of_suffix (List.suffix_append _ _)

-- On the second turn the mark is seen at last, and every candidate up to there is the mark.
theorem regenerated (alone : t.Alone mark byte lead clear core) (start track : Track)
    (fills : t.Fills track.total gap) :
    t.codec.outcome start (t.codec.emit track).toRevolution =
      .ok (t.found start (track.offset % track.total) []) := by
  obtain ⟨rest, stamped⟩ := alone.stamped fills
  have length := emit_length alone.marked track
  obtain ⟨-, total, offset⟩ := emit_lays alone.marked track
  have known : t.fillByte track = byte := by rw [fillByte, alone.fill]
  have bits : (clear ++ core).length = t.markBits := by rw [← alone.written, head_length]
  have fits : t.markBits + t.extent ≤ track.total := by
    have turn := fills.turn
    have enough := fills.enough
    rw [extent]
    omega
  have turns : Cursor.defaultRevolutions = 3 := rfl
  have nonempty : 0 < track.total := by
    rw [← total]
    exact stamped.total_positive
  have small := Nat.mod_lt track.offset nonempty
  have seen := stamped.seen_again alone.proper
  rw [total, offset, bits] at seen
  have settled : ∃ value, value = (track.offset % track.total, []) ∧
      t.codec.outcome start (t.codec.emit track).toRevolution =
        .ok (t.found start value.1 value.2) := by
    refine outcome_settled alone.marked (by omega) seen (by rw [length, turns]; omega) ?_
    intro m _ upTo candidate
    have place := stamped.seen_places alone.proper candidate
    rw [total, offset, bits] at place
    have room : m + t.extent ≤ Cursor.defaultRevolutions * track.total := by
      rw [turns]
      omega
    obtain ⟨stop, takes⟩ := look_written alone.marked track (by decide) (.inr alone.fill) known
      fills.enough fits fills.long nonempty place room
    rw [dataOf, alone.fill] at takes
    exact ⟨_, stop, takes, rfl⟩
  obtain ⟨value, rfl, outcome⟩ := settled
  exact outcome

theorem recognised (alone : t.Alone mark byte lead clear core) (fills : t.Fills t.committed gap)
    (total : track.total = t.committed) :
    (t.codec.recognise (t.codec.emit track).toRevolution).result =
      .ok { Track.new t.format .none with
        offset := t.foundAt track.offset, total := t.committed, size := 0, data := [] } := by
  change t.codec.outcome (Track.new t.format .none) _ = _
  rw [← total] at fills
  rw [alone.regenerated _ track fills, foundAt, alone.marked, total]
  rfl

end Alone

theorem gremlin_alone : gremlin.Alone (.long 0x41244124) 0 0 [false] (Bits.ofNat 31 0x41244124) := by
  refine ⟨rfl, ⟨.inr rfl, by decide⟩, rfl, rfl, ?_, rfl, rfl, rfl, ?_, ?_⟩ <;> decide +kernel

theorem tiertex_alone : tiertex.Alone (.long 0x41244124) 0 0 [false] (Bits.ofNat 31 0x41244124) := by
  refine ⟨rfl, ⟨.inr rfl, by decide⟩, rfl, rfl, ?_, rfl, rfl, rfl, ?_, ?_⟩ <;> decide +kernel

theorem crystals_alone : crystals.Alone (.long 0xaaaaa144) 0 8 [] (Bits.ofNat 16 0xa144) := by
  refine ⟨rfl, ⟨.inr rfl, by decide⟩, rfl, rfl, ?_, rfl, rfl, rfl, ?_, ?_⟩ <;> decide +kernel

theorem infogrames_alone : infogrames.Alone (.short 0xa144) 0 0 [] (Bits.ofNat 16 0xa144) := by
  refine ⟨rfl, ⟨.inl rfl, by decide⟩, rfl, rfl, ?_, rfl, rfl, rfl, ?_, ?_⟩ <;> decide +kernel

theorem bat_alone : bat.Alone (.long 0xaaaa8945) 0 8 [] (Bits.ofNat 16 0x8945) := by
  refine ⟨rfl, ⟨.inr rfl, by decide⟩, rfl, rfl, ?_, rfl, rfl, rfl, ?_, ?_⟩ <;> decide +kernel

theorem power_pack_alone : powerPack.Alone (.short 0x924a) 0xdc 0 [] (Bits.ofNat 16 0x924a) := by
  refine ⟨rfl, ⟨.inl rfl, by decide⟩, rfl, rfl, ?_, rfl, rfl, rfl, ?_, ?_⟩ <;> decide +kernel

-- The formats whose data is in the format itself.
def fixedFills : List LongTrack := [gremlin, tiertex, crystals, infogrames, bat, powerPack, empty]

theorem alone_fills (t : LongTrack) (listed : t ∈ fixedFills) :
    t = empty ∨ ∃ mark byte lead clear core gap,
      t.Alone mark byte lead clear core ∧ t.Fills t.committed gap := by
  simp only [fixedFills, List.mem_cons, List.not_mem_nil, or_false] at listed
  rcases listed with rfl | rfl | rfl | rfl | rfl | rfl | rfl
  · have fills : gremlin.Fills 105500 1990 := by constructor <;> decide
    exact .inr ⟨_, _, _, _, _, _, gremlin_alone, fills⟩
  · have fills : tiertex.Fills 100150 1987 := by constructor <;> decide
    exact .inr ⟨_, _, _, _, _, _, tiertex_alone, fills⟩
  · have fills : crystals.Fills 110000 2560 := by constructor <;> decide
    exact .inr ⟨_, _, _, _, _, _, crystals_alone, fills⟩
  · have fills : infogrames.Fills 105500 342 := by constructor <;> decide
    exact .inr ⟨_, _, _, _, _, _, infogrames_alone, fills⟩
  · have fills : bat.Fills 110000 272 := by constructor <;> decide
    exact .inr ⟨_, _, _, _, _, _, bat_alone, fills⟩
  · have fills : powerPack.Fills 111000 2692 := by constructor <;> decide
    exact .inr ⟨_, _, _, _, _, _, power_pack_alone, fills⟩
  · exact .inl rfl

theorem empty_outcome (start : Track) (r : Revolution) :
    empty.codec.outcome start r =
      if 105000 ≤ r.length then
        .ok { start with total := 110000, offset := 55000, size := 0, data := [] }
      else .error (.tooShort .empty r.length 105000) := by
  have total : empty.total.getD start.total = 110000 := rfl
  have least : empty.minimum.getD 0 = 105000 := rfl
  rw [outcome_measured (t := empty) rfl, total, least]
  rfl

theorem fixed_fill_regenerated (t : LongTrack) (listed : t ∈ fixedFills) (track : Track)
    (total : track.total = t.committed) :
    (t.codec.recognise (t.codec.emit track).toRevolution).result =
      .ok { Track.new t.format .none with
        offset := t.foundAt track.offset, total := t.committed, size := 0, data := [] } := by
  rcases alone_fills t listed with rfl | ⟨mark, byte, lead, clear, core, gap, alone, fills⟩
  · have length : (empty.codec.emit track).toRevolution.length = 110000 := by
      rw [Emission.to_revolution_length]
      exact total
    change empty.codec.outcome (Track.new .empty .none) _ = _
    rw [empty_outcome, if_pos (by rw [length]; decide)]
    rfl
  · exact alone.recognised fills total

-- Eleven of the sixteen cells that must precede the mark lie on the far side of the index pulse.
theorem crystals_across_pulse :
    (crystals.codec.recognise (crystals.codec.emit
        { Track.new .crystals .none with offset := 5, total := 110000 }).toRevolution).result =
      .ok { Track.new .crystals .none with offset := 5, total := 110000 } :=
  fixed_fill_regenerated crystals (by decide) _ rfl

example : fixedFills.map committed = [105500, 100150, 110000, 105500, 110000, 111000, 110000] := rfl

end FloppyTrack.LongTrack
