import FloppyTrack.Catalog
import FloppyTrack.Proofs.LongTrack
import FloppyTrack.Proofs.RType.Crossing

set_option autoImplicit false

namespace FloppyTrack

-- A format with a mark: the layout it asks for behind the mark, and how far its look reads until it accepts.
structure Scanner where
  codec : Codec
  mark : Sync
  look : Reader (Finding (Nat × List UInt8))
  Layout : Revolution → Nat → Prop
  extent : Nat
  proper : mark.Proper
  steady : look.Steady
  decodes : ∀ (start : Track) (r : Revolution) (value : Nat × List UInt8),
    ((scan codec.format mark look).run (Cursor.start r Cursor.defaultRevolutions)).1.result =
      .ok value → ∃ track, codec.outcome start r = .ok track
  accepts : ∀ (r : Revolution) (R n : Nat), 0 < R → mark.bits ≤ n → n + extent ≤ R * r.length →
    Layout r n → look.Gives r R n fun finding => ∃ value, finding = .accept value
  patient : ∀ (r : Revolution) (R k n : Nat), 0 < R → k ≤ n → n + extent ≤ R * r.length →
    Layout r n → mark.seenAt r k = true →
    look.Gives r R k fun finding => ∀ error, finding ≠ .giveUp error

namespace LongTrack

def scanner (t : LongTrack) (mark : Sync) (marked : t.mark = some mark) (proper : mark.Proper) :
    Scanner where
  codec := t.codec
  mark := mark
  look := t.look
  Layout := t.Layout
  extent := t.extent
  proper := proper
  steady := steady_look t
  decodes start r value found := by
    refine ⟨t.found start value.1 value.2, ?_⟩
    rw [outcome_scan marked]
    exact congrArg (Functor.map fun place => t.found start place.1 place.2) found
  accepts _ _ _ turns _ room layout := look_accepts turns room layout
  patient _ _ _ _ turns upTo room layout _ := look_patient turns (by omega) layout.long

end LongTrack

namespace RType

theorem cells_left {r : Revolution} {R n extent : Nat} (behind : mark.bits ≤ n)
    (room : n + extent ≤ R * r.length) : 0 < r.length := by
  have bits : mark.bits = 16 := rfl
  refine Nat.pos_of_ne_zero ?_
  rintro empty
  rw [empty, Nat.mul_zero] at room
  omega

def scanner (v : Variant) (codec : Codec)
    (decodes : ∀ (start : Track) (r : Revolution) (value : Nat × List UInt8),
      ((scan codec.format mark v.look).run (Cursor.start r Cursor.defaultRevolutions)).1.result =
        .ok value → ∃ track, codec.outcome start r = .ok track) : Scanner where
  codec := codec
  mark := mark
  look := v.look
  Layout r n := ∃ data, v.Carries r n data
  extent := 2 * v.count
  proper := mark_proper
  steady := v.steady
  decodes := decodes
  accepts r R n turns behind room layout := by
    obtain ⟨data, carries⟩ := layout
    refine Reader.gives_imp (v.judges r R n (cells_left behind room) behind) ?_
    intro finding judged
    cases finding with
    | accept value => exact ⟨value, rfl⟩
    | reject why => exact absurd carries (judged data)
    | giveUp error => exact absurd room (Nat.not_le_of_lt judged.2)
  patient r R k n turns upTo room layout seen := by
    have behind := mark_behind seen
    have fits : k + 2 * v.count ≤ R * r.length := by omega
    refine Reader.gives_imp (v.judges r R k (cells_left behind fits) behind) ?_
    intro finding judged error same
    subst same
    exact absurd fits (Nat.not_le_of_lt judged.2)

def scannerA : Scanner :=
  scanner variantA codecA fun start _ value found =>
    ⟨RType.found start geometryA value.1 value.2, congrArg (Functor.map _) found⟩

def scannerB : Scanner :=
  scanner variantB codecB fun start _ value found =>
    ⟨{ RType.found start geometryB value.1 value.2 with total := 105500 },
      congrArg (Functor.map _) found⟩

end RType

-- Every format that has a mark.
def Format.scanner? : Format → Option Scanner
  | .protec => some (LongTrack.protec.scanner (.short 0x4454) rfl ⟨.inl rfl, by decide⟩)
  | .gremlin => some (LongTrack.gremlin.scanner (.long 0x41244124) rfl ⟨.inr rfl, by decide⟩)
  | .tiertex => some (LongTrack.tiertex.scanner (.long 0x41244124) rfl ⟨.inr rfl, by decide⟩)
  | .crystals => some (LongTrack.crystals.scanner (.long 0xaaaaa144) rfl ⟨.inr rfl, by decide⟩)
  | .infogrames => some (LongTrack.infogrames.scanner (.short 0xa144) rfl ⟨.inl rfl, by decide⟩)
  | .bat => some (LongTrack.bat.scanner (.long 0xaaaa8945) rfl ⟨.inr rfl, by decide⟩)
  | .powerPack => some (LongTrack.powerPack.scanner (.short 0x924a) rfl ⟨.inl rfl, by decide⟩)
  | .rTypeA => some RType.scannerA
  | .rTypeB => some RType.scannerB
  | .unformatted | .sevenCities | .empty => none

theorem scanner_codec {format : Format} {scanner : Scanner}
    (scans : format.scanner? = some scanner) : format.codec = .ok scanner.codec := by
  cases format <;> cases scans <;> rfl

theorem layout_accepted_or_hidden (format : Format) (scanner : Scanner) (codec : Codec)
    (scans : format.scanner? = some scanner) (known : format.codec = .ok codec) (start : Track)
    (r : Revolution) (n : Nat)
    (marked : r.stretch n scanner.mark.bits = scanner.mark.cells)
    (layout : scanner.Layout r (n + scanner.mark.bits))
    (room : n + scanner.mark.bits + scanner.extent ≤ Cursor.defaultRevolutions * r.length) :
    (∃ track, codec.outcome start r = .ok track) ∨
      Scan.Hides scanner.mark scanner.look r Cursor.defaultRevolutions 0
        (n + scanner.mark.bits) := by
  have same := (scanner_codec scans).symm.trans known
  cases same
  have course := Scan.loop_course scanner.codec.format scanner.mark scanner.look scanner.steady r
    Cursor.defaultRevolutions 0 0 (by decide) [] _ (Cursor.start_stands r _)
  have seen := (Sync.seen_iff scanner.proper n).mpr marked
  have wide : 0 < scanner.mark.bits := by
    rcases scanner.proper.width with width | width <;> omega
  have found := course.accepts_or_hides (by omega) seen (by omega)
    (scanner.accepts r _ _ (by decide) (by omega) room layout)
    fun k upTo before => scanner.patient r _ k _ (by decide) upTo room layout before
  rcases found with ⟨value, accepted⟩ | hidden
  · exact .inl (scanner.decodes start r value accepted)
  · exact .inr hidden

theorem meets_seen {α : Type} {mark : Sync} {look : Reader (Finding α)} {r : Revolution} {R n k : Nat}
    (meets : Scan.Meets mark look r R n k) : mark.seenAt r k = true := by
  induction meets with
  | next first => exact first.holds
  | later _ _ _ ih => exact ih

-- A mark with another byte behind it than that of the fill, and one with the fill.
def secondMark : Revolution :=
  Revolution.ofBits (Bits.ofNat 32 0x41244124 ++ mfmCells false (Bits.ofNat 8 0xff) ++
    (Bits.ofNat 32 0x41244124 ++ mfmCells false (List.replicate 84 false)))

theorem second_mark_accepted :
    secondMark.stretch 0 32 = (Sync.long 0x41244124).cells ∧
      (∃ why stop, LongTrack.gremlin.look.Takes secondMark Cursor.defaultRevolutions 32
        (.reject why) stop) ∧
      secondMark.stretch 48 32 = (Sync.long 0x41244124).cells ∧
      LongTrack.gremlin.Layout secondMark (48 + 32) ∧
      48 + 32 + LongTrack.gremlin.extent ≤ Cursor.defaultRevolutions * secondMark.length ∧
      ∃ track, LongTrack.gremlin.codec.outcome .unformatted secondMark = .ok track := by
  have spurious : secondMark.stretch 0 32 = (Sync.long 0x41244124).cells := by decide +kernel
  have marked : secondMark.stretch 48 32 = (Sync.long 0x41244124).cells := by decide +kernel
  have zeros : LongTrack.gremlin.Layout secondMark (48 + 32) :=
    ⟨rfl, ⟨0, .inr rfl, by decide +kernel⟩, Nat.zero_le _⟩
  have room : 48 + 32 + LongTrack.gremlin.extent ≤
      Cursor.defaultRevolutions * secondMark.length := by
    decide +kernel
  have sole : ∀ k, k < 80 → (Sync.long 0x41244124).seenAt secondMark k = true → k = 32 := by
    decide +kernel
  obtain ⟨why, stop, takes, soon⟩ := LongTrack.look_misses (t := .gremlin) (r := secondMark)
    (R := Cursor.defaultRevolutions) (n := 32) (k := 0) rfl rfl (by decide) (by decide +kernel)
    (by decide +kernel)
  rcases layout_accepted_or_hidden .gremlin _ _ rfl rfl .unformatted secondMark 48 marked zeros
    room with accepted | ⟨k, other, j, meets, before, looked, past⟩
  · exact ⟨spurious, ⟨why, stop, takes⟩, marked, zeros, room, accepted⟩
  · obtain rfl : k = 32 := sole k before (meets_seen meets)
    have same : j = stop := (Reader.takes_unique (by decide +kernel) looked takes).2
    have behind : 80 ≤ j := past
    omega

-- Half a mark in front of one that zeros follow.
def doubledMark : Revolution :=
  Revolution.ofBits (Bits.ofNat 48 0x412441244124 ++ mfmCells false (List.replicate 76 false))

-- The whole layout of variant A stands on these 48 cells, but takes nearly two thousand turns to read.
def tinyTurn : Revolution :=
  Revolution.ofBits (RType.mark.cells ++ mfmCells true (Bits.ofNat 16 0x0071))

theorem tiny_turn_sum (turns : Nat) :
    groupSum (3 * turns) (tinyTurn.dataBits 32 (48 * turns)) = 0 := by
  have once : groupSum 3 (tinyTurn.dataBits 32 48) = 0 := by decide +kernel
  induction turns with
  | zero => rfl
  | succ turns ih =>
    have length : tinyTurn.length = 48 := by decide +kernel
    have again : tinyTurn.dataBits (32 + 2 * 48) (48 * turns) = tinyTurn.dataBits 32 (48 * turns) :=
      Revolution.data_bits_congr _ _ _ _ (by rw [length])
    have more : 3 * (turns + 1) = 3 + 3 * turns := by omega
    have longer : 48 * (turns + 1) = 48 + 48 * turns := by omega
    rw [more, longer, Revolution.data_bits_add, again, group_sum_append 3 _ _ _ (by simp), once, ih]
    rfl

theorem tiny_turn_layout : RType.scannerA.Layout tinyTurn 16 :=
  RType.some_carried_A.mpr ⟨by decide +kernel, tiny_turn_sum 995⟩

theorem layouts_missed :
    (doubledMark.stretch 16 32 = (Sync.long 0x41244124).cells ∧
      LongTrack.gremlin.Layout doubledMark (16 + 32) ∧
      16 + 32 + LongTrack.gremlin.extent ≤ doubledMark.length ∧
      (LongTrack.gremlin.codec.outcome .unformatted doubledMark).toOption = none) ∧
    (tinyTurn.stretch 0 16 = RType.mark.cells ∧ RType.scannerA.Layout tinyTurn 16 ∧
      (RType.codecA.outcome .unformatted tinyTurn).toOption = none) := by
  refine ⟨⟨by decide +kernel, ⟨rfl, ⟨0, .inr rfl, by decide +kernel⟩, Nat.zero_le _⟩,
    by decide +kernel, by decide +kernel⟩, by decide +kernel, tiny_turn_layout, ?_⟩
  decide +kernel

end FloppyTrack
