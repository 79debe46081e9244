import FloppyTrack.Proofs.Identify
import FloppyTrack.Proofs.KeyTrack
import FloppyTrack.Proofs.LongTrack.FixedFill
import FloppyTrack.Proofs.LongTrack.Recapture
import FloppyTrack.Proofs.RType.RoundTrip

set_option autoImplicit false

namespace FloppyTrack

-- A PROTEC track is found where it starts unless its fill is the byte of the mark or is taken for it.
def Track.Unmistaken (track : Track) : Prop :=
  track.format = .protec → ∀ byte, track.data = [byte] →
    byte ≠ 0xae ∧ LongTrack.Protec.recaptured byte (track.offset % 110000) = byte

-- What holds of a track that was accepted on a turn of `cells` cells.
structure Codec.Restores (codec : Codec) (cells : Nat) (track : Track) : Prop where
  format : track.format = codec.format
  beyond : track.total ≤ track.offset →
    track.offset < cells ∧ codec.format ≠ .empty ∧ codec.format ≠ .sevenCities
  total : (codec.emit track).total = track.total
  offset : (codec.emit track).offset = track.offset
  again : ∃ again,
    codec.outcome (Track.new codec.format codec.geometry) (codec.emit track).toRevolution = .ok again ∧
      again.offset < track.total ∧
        (track.Unmistaken → again = { track with offset := track.offset % track.total })

section
variable {source : Revolution} {track : Track}

-- A variant whose accepted tracks are `kept` with the length `total`.
theorem RType.Variant.restores (w : Variant) {codec : Codec} (kept : Nat × List UInt8 → Track)
    (total : Nat)
    (reads : ∀ r, codec.outcome (Track.new codec.format codec.geometry) r =
      kept <$> ((scan w.format mark w.look).run (Cursor.start r 3)).1.result)
    (writes : codec.encode = w.encode) (format : ∀ place, (kept place).format = codec.format)
    (places : ∀ place, (kept place).total = total ∧ (kept place).offset = place.1 ∧
      (kept place).data = place.2)
    (moves : ∀ place offset, kept (offset, place.2) = { kept place with offset })
    (room : 16 + 2 * w.count ≤ total)
    (scanned : codec.format ≠ .empty ∧ codec.format ≠ .sevenCities)
    (found : codec.outcome (Track.new codec.format codec.geometry) source = .ok track) :
    codec.Restores source.length track := by
  rw [reads] at found
  cases sought : ((scan w.format mark w.look).run (Cursor.start source 3)).1.result with
  | error error =>
    rw [sought] at found
    cases found
  | ok place =>
    rw [sought] at found
    cases found
    obtain ⟨length, offset, data⟩ := places place
    obtain ⟨inside, -, carries⟩ := w.search_found sought
    have size := carries.size
    have emits : codec.emit (kept place) = w.encode (kept place) (Emission.start total place.1) := by
      rw [Codec.emit, writes, length, offset]
    obtain ⟨total', offset'⟩ := w.placed (kept place) total place.1
    have search := w.search_own (kept place) total place.1 (by rw [data, size]) room
    rw [Variant.written, ← emits, data] at search
    have wrapped : (kept place).offset % (kept place).total = place.1 % total := by
      rw [length, offset]
    have again : codec.outcome (Track.new codec.format codec.geometry)
        (codec.emit (kept place)).toRevolution =
          .ok { kept place with offset := (kept place).offset % (kept place).total } := by
      rw [reads, search, wrapped, ← moves]
      rfl
    rw [← emits, ← length] at total'
    rw [← emits, ← offset] at offset'
    refine ⟨format place, fun _ => ⟨by rw [offset]; exact inside, scanned⟩, total', offset', _, again,
      ?_, fun _ => rfl⟩
    exact Nat.mod_lt _ (by omega)

theorem RType.A_restores
    (found : RType.codecA.outcome (Track.new .rTypeA geometryA) source = .ok track) :
    codecA.Restores source.length track :=
  variantA.restores (fun place => RType.found (Track.new .rTypeA geometryA) geometryA place.1 place.2)
    Track.standardTotal (outcome_A _) rfl (fun _ => rfl) (fun _ => ⟨rfl, rfl, rfl⟩) (fun _ _ => rfl)
    (by decide) (by decide) found

theorem RType.B_restores
    (found : RType.codecB.outcome (Track.new .rTypeB geometryB) source = .ok track) :
    codecB.Restores source.length track :=
  variantB.restores
    (fun place =>
      { RType.found (Track.new .rTypeB geometryB) geometryB place.1 place.2 with total := 105500 })
    105500 (outcome_B _) rfl (fun _ => rfl) (fun _ => ⟨rfl, rfl, rfl⟩) (fun _ _ => rfl) (by decide)
    (by decide) found

theorem KeyTrack.restores
    (found : KeyTrack.codec.outcome (Track.new .sevenCities .none) source = .ok track) :
    KeyTrack.codec.Restores source.length track := by
  obtain ⟨data, genuine, rfl⟩ := outcome_genuine found
  obtain ⟨-, total, offset⟩ := emit_lays (keep (Track.new .sevenCities .none) data)
  have early : 76000 < 101500 := by decide
  refine ⟨rfl, fun beyond => absurd beyond (Nat.not_le_of_lt early), total, offset, ?_⟩
  exact ⟨_, regenerated _ _ genuine, early, fun _ => rfl⟩

namespace LongTrack

theorem empty_restores
    (found : empty.codec.outcome (Track.new .empty .none) source = .ok track) :
    empty.codec.Restores source.length track := by
  rw [empty_outcome] at found
  split at found
  · cases found
    refine ⟨rfl, fun beyond => absurd beyond (by decide), rfl, rfl, ?_⟩
    refine ⟨_, (empty_outcome _ _).trans (if_pos ?_), by decide, fun _ => rfl⟩
    rw [Emission.to_revolution_length]
    decide
  · cases found

theorem alone_restores {t : LongTrack} {mark : Sync} {byte : UInt8} {lead gap : Nat}
    {clear core : List Bool} (alone : t.Alone mark byte lead clear core)
    (fills : t.Fills t.committed gap) (scanned : t.format ≠ .empty ∧ t.format ≠ .sevenCities)
    (found : t.codec.outcome (Track.new t.format .none) source = .ok track) :
    t.codec.Restores source.length track := by
  obtain ⟨place, read, inside, rfl⟩ := outcome_reports alone.marked found
  have dataless : t.dataOf read = [] := by rw [dataOf, alone.fill]
  rw [dataless]
  obtain ⟨-, total, offset⟩ := emit_lays alone.marked (t.found (Track.new t.format .none) place [])
  have again := alone.regenerated (Track.new t.format .none)
    (t.found (Track.new t.format .none) place []) fills
  have positive : 0 < t.committed := by
    have turn := fills.turn
    have wide := fills.wide
    omega
  exact ⟨rfl, fun _ => ⟨inside, scanned⟩, total, offset, _, again, Nat.mod_lt _ positive, fun _ => rfl⟩

theorem fixed_fill_restores (t : LongTrack) (listed : t ∈ fixedFills)
    (found : t.codec.outcome (Track.new t.format .none) source = .ok track) :
    t.codec.Restores source.length track := by
  have scanned : ∀ t ∈ fixedFills, t.mark.isSome →
      t.format ≠ .empty ∧ t.format ≠ .sevenCities := by
    decide
  rcases alone_fills t listed with rfl | ⟨mark, byte, lead, clear, core, gap, alone, fills⟩
  · exact empty_restores found
  · exact alone_restores alone fills (scanned t listed (by rw [alone.marked]; rfl)) found

theorem protec_restores
    (found : protec.codec.outcome (Track.new .protec .none) source = .ok track) :
    protec.codec.Restores source.length track := by
  obtain ⟨place, byte, inside, rfl⟩ := outcome_reports Protec.marked found
  obtain ⟨-, total, offset⟩ := emit_lays Protec.marked
    (protec.found (Track.new .protec .none) place [byte])
  have ringed : Protec.Ringed (protec.found (Track.new .protec .none) place [byte]) byte 874 :=
    ⟨rfl, rfl, by decide, by decide⟩
  refine ⟨rfl, fun _ => ⟨inside, by decide, by decide⟩, total, offset, ?_⟩
  by_cases plain : byte ≠ 0xae ∧ Protec.recaptured byte (place % 110000) = byte
  · exact ⟨_, Protec.captured_in_place ringed _ plain.1 plain.2, Nat.mod_lt _ (by decide),
      fun _ => rfl⟩
  · -- Wherever the track is found then, the offset is one on the turn that was read.
    obtain ⟨other, again⟩ := Protec.regenerated_captured ringed (Track.new .protec .none)
    obtain ⟨place', read, small, same⟩ := outcome_reports Protec.marked again
    obtain rfl : other = place' := congrArg Track.offset same
    rw [emit_length Protec.marked] at small
    exact ⟨_, again, small, fun unmistaken => absurd (unmistaken rfl byte rfl) plain⟩

theorem all_restores (t : LongTrack) (listed : t ∈ all)
    (found : t.codec.outcome (Track.new t.format .none) source = .ok track) :
    t.codec.Restores source.length track := by
  have parts : all = protec :: fixedFills := rfl
  rw [parts, List.mem_cons] at listed
  rcases listed with rfl | fixed
  · exact protec_restores found
  · exact fixed_fill_restores t fixed found

end LongTrack

theorem Catalog.restores (codec : Codec) (listed : codec ∈ Catalog.codecs)
    (found : codec.outcome (Track.new codec.format codec.geometry) source = .ok track) :
    codec.Restores source.length track := by
  revert found
  refine codec_cases (p := fun codec =>
    codec.outcome (Track.new codec.format codec.geometry) source = .ok track →
      codec.Restores source.length track) ?_ ?_ ?_ ?_ codec listed
  · exact LongTrack.all_restores
  · exact KeyTrack.restores
  · exact RType.A_restores
  · exact RType.B_restores

end

-- The entry `n` of a disk, where `track` was decoded from a turn of `cells` cells, and the turn that it
-- is regenerated as.
structure Disk.Reproduces (disk : Disk) (n : Nat) (format : Format) (cells : Nat) (track : Track)
    (codec : Codec) (turn : Revolution) : Prop where
  entry : disk.get? n = some track
  known : format.codec = .ok codec
  encoded : (disk.encode n).result = .ok turn
  beyond : track.total ≤ track.offset →
    track.offset < cells ∧ format ≠ .empty ∧ format ≠ .sevenCities
  length : turn.length = track.total
  placed : ∀ k, k < (codec.emit track).size → k < track.total →
    (codec.emit track).cells[k]? = some (turn.cell ((track.offset + k) % track.total))
  again : ∀ (copy : Disk) (m : Nat), m < copy.size → ∃ again,
    (copy.decode m format turn).1.result = .ok again ∧ again.offset < track.total ∧
      (track.Unmistaken → again = { track with offset := track.offset % track.total })

theorem decoded_reproduced (disk : Disk) (n : Nat) (format : Format) (source : Revolution)
    (track : Track) (decoded : (disk.decode n format source).1.result = .ok track) :
    ∃ codec turn,
      (disk.decode n format source).2.Reproduces n format source.length track codec turn := by
  obtain ⟨codec, known, within, found, kept⟩ := Disk.accepted_decode decoded
  obtain ⟨listed, same⟩ := Format.codec_listed known
  have restores := Catalog.restores codec listed found
  have entry : (disk.decode n format source).2.get? n = some track := by
    rw [kept]
    exact List.getElem?_set_self within
  refine ⟨codec, (codec.emit track).toRevolution, entry, known, ?_, ?_, ?_, ?_, ?_⟩
  · have own : track.format = format := restores.format.trans same
    have formatted : track.isFormatted = true := by
      rw [Track.isFormatted, own]
      exact decide_eq_true (by rintro rfl; cases known)
    rw [Disk.encode, entry]
    dsimp only
    rw [if_pos formatted, own, known]
  · rw [← same]
    exact restores.beyond
  · rw [Emission.to_revolution_length, restores.total]
  · intro k emitted inside
    rw [← restores.total] at inside ⊢
    rw [← restores.offset]
    exact Emission.cell_placed _ emitted inside
  · intro copy m inside
    obtain ⟨again, outcome, bound, whole⟩ := restores.again
    exact ⟨again, (Disk.decode_accepts inside known outcome).1, bound, whole⟩

-- A Gremlin track with its mark close to the end of a turn that is longer than the regenerated one.
def slowTurn : Revolution :=
  (LongTrack.gremlin.codec.emit
    { Track.new .gremlin .none with offset := 110000, total := 120000 }).toRevolution

def slowTrack : Track := { Track.new .gremlin .none with offset := 110000, total := 105500 }

theorem slow_recognised :
    LongTrack.gremlin.codec.outcome (Track.new .gremlin .none) slowTurn = .ok slowTrack := by
  have fills : LongTrack.gremlin.Fills 120000 1984 := by constructor <;> decide
  exact LongTrack.gremlin_alone.regenerated (Track.new .gremlin .none) _ fills

theorem slow_decoded : ((Disk.blank 1).decode 0 .gremlin slowTurn).1.result = .ok slowTrack :=
  (Disk.decode_accepts (by decide) rfl slow_recognised).1

theorem slow_reproduced :
    ((Disk.blank 1).decode 0 .gremlin slowTurn).1.result = .ok slowTrack ∧
      ∃ codec turn, ((Disk.blank 1).decode 0 .gremlin slowTurn).2.Reproduces 0 .gremlin
        slowTurn.length slowTrack codec turn :=
  ⟨slow_decoded, decoded_reproduced (Disk.blank 1) 0 .gremlin slowTurn slowTrack slow_decoded⟩

theorem slow_offset_moves :
    ((Disk.blank 1).decode 0 .gremlin slowTurn).1.result = .ok slowTrack ∧
      ¬ slowTrack.offset < slowTrack.total ∧
      ((Disk.blank 1).decode 0 .gremlin
          (LongTrack.gremlin.codec.emit slowTrack).toRevolution).1.result =
        .ok { slowTrack with offset := 4500 } := by
  have fills : LongTrack.gremlin.Fills 105500 1990 := by constructor <;> decide
  exact ⟨slow_decoded, by decide, (Disk.decode_accepts (by decide) rfl
    (LongTrack.gremlin_alone.regenerated (Track.new .gremlin .none) slowTrack fills)).1⟩

end FloppyTrack
