import FloppyTrack.Proofs.RType.RoundTrip

set_option autoImplicit false

namespace FloppyTrack

-- What is emitted for `track` stands on `source` from the offset of the track on, clocks aside.
structure Codec.Matches (codec : Codec) (source : Revolution) (size cells : Nat) (track : Track) :
    Prop where
  size : track.data.length = size
  emitted : (codec.emit track).size = cells
  inside : track.offset < source.length
  mark : ∀ k, k < 16 → (codec.emit track).cells[k]? =
    some (source.cell ((track.offset + k) % source.length))
  data : ∀ k, 16 + (2 * k + 1) < cells → (codec.emit track).cells[16 + (2 * k + 1)]? =
    some (source.cell ((track.offset + (16 + (2 * k + 1))) % source.length))

namespace RType

section
variable {source : Revolution}

-- A variant whose accepted tracks are `kept`.
theorem Variant.matched (v : Variant) {codec : Codec} (kept : Nat × List UInt8 → Track)
    (writes : codec.encode = v.encode)
    (places : ∀ place, (kept place).offset = place.1 ∧ (kept place).data = place.2) {turns : Nat}
    {track : Track}
    (found : kept <$> ((scan v.format mark v.look).run (Cursor.start source turns)).1.result =
      .ok track) :
    codec.Matches source v.size (16 + 2 * v.count) track := by
  cases sought : ((scan v.format mark v.look).run (Cursor.start source turns)).1.result with
  | error error =>
    rw [sought] at found
    cases found
  | ok place =>
    rw [sought] at found
    cases found
    obtain ⟨offset, data⟩ := places place
    obtain ⟨inside, marked, carries⟩ := v.search_found sought
    rw [← offset] at inside marked carries
    rw [← data] at carries
    have lays : (codec.emit (kept place)).Lays mark.cells (v.bits (kept place).data) := by
      rw [Codec.emit, writes]
      exact v.lays (kept place) (kept place).total (kept place).offset
    have bits := v.bits_length (kept place).data carries.size
    have width : mark.cells.length = 16 := rfl
    refine ⟨carries.size, ?_, inside, ?_, ?_⟩
    · rw [Emission.lays_size lays, bits, width]
    · intro k front
      have shown := congrArg (fun cells => cells[k]?) marked
      simp only [Revolution.stretch, List.getElem?_map,
        List.getElem?_range (show k < mark.bits from front), Option.map_some] at shown
      rw [← Array.getElem?_toList, lays.cells,
        List.getElem?_append_left (by rw [width]; exact front), ← shown]
      rfl
    · intro k within
      have shown := congrArg (fun bits => bits[k]?) carries.bits
      have ahead : (kept place).offset + mark.bits + 2 * k + 1 =
          (kept place).offset + (16 + (2 * k + 1)) := by
        have : mark.bits = 16 := rfl
        omega
      simp only [Revolution.dataBits, List.getElem?_map,
        List.getElem?_range (show k < v.count by omega), Option.map_some, ahead] at shown
      rw [← Array.getElem?_toList, lays.cells, List.getElem?_append_right (by rw [width]; omega), width,
        Nat.add_sub_cancel_left, mfm_data_cell, ← shown]
      rfl

theorem accepted_as_written (source : Revolution) (turns : Nat) (start track : Track) :
    (((codecA.decode start).run (Cursor.start source turns)).1.result = .ok track →
      codecA.Matches source 5968 95552 track) ∧
    (((codecB.decode start).run (Cursor.start source turns)).1.result = .ok track →
      codecB.Matches source 6552 104928 track) := by
  constructor
  · intro found
    rw [decoded_A] at found
    have writes : codecA.encode = variantA.encode := rfl
    exact variantA.matched _ writes (fun _ => ⟨rfl, rfl⟩) found
  · intro found
    rw [decoded_B] at found
    have writes : codecB.encode = variantB.encode := rfl
    exact variantB.matched _ writes (fun _ => ⟨rfl, rfl⟩) found

end

-- Tracks without a gap, of which only the first cell stands in front of the index pulse.
def tightA : Track :=
  { Track.unformatted with offset := 95551, total := 95552, data := List.replicate 5968 0x4e }

def tightB : Track :=
  { Track.unformatted with offset := 104927, total := 104928, data := List.replicate 6552 0x4e }

theorem tight_tracks_matched :
    (((codecA.decode .unformatted).run
        (Cursor.start (codecA.emit tightA).toRevolution 3)).1.result =
          .ok (RType.found .unformatted geometryA 95551 tightA.data) ∧
      codecA.Matches (codecA.emit tightA).toRevolution 5968 95552
        (RType.found .unformatted geometryA 95551 tightA.data)) ∧
    (((codecB.decode .unformatted).run
        (Cursor.start (codecB.emit tightB).toRevolution 3)).1.result =
          .ok { RType.found .unformatted geometryB 104927 tightB.data with total := 105500 } ∧
      codecB.Matches (codecB.emit tightB).toRevolution 6552 104928
        { RType.found .unformatted geometryB 104927 tightB.data with total := 105500 }) := by
  have readA : ((codecA.decode .unformatted).run
      (Cursor.start (codecA.emit tightA).toRevolution 3)).1.result =
        .ok (RType.found .unformatted geometryA 95551 tightA.data) := by
    rw [decoded_A]
    exact congrArg (Functor.map _)
      (variantA.search_own tightA 95552 95551 List.length_replicate (Nat.le_refl _))
  have readB : ((codecB.decode .unformatted).run
      (Cursor.start (codecB.emit tightB).toRevolution 3)).1.result =
        .ok { RType.found .unformatted geometryB 104927 tightB.data with total := 105500 } := by
    rw [decoded_B]
    exact congrArg (Functor.map _)
      (variantB.search_own tightB 104928 104927 List.length_replicate (Nat.le_refl _))
  exact ⟨⟨readA, (accepted_as_written _ 3 .unformatted _).1 readA⟩,
    ⟨readB, (accepted_as_written _ 3 .unformatted _).2 readB⟩⟩

end RType

end FloppyTrack
