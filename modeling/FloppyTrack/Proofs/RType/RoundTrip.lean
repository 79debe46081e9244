import FloppyTrack.Proofs.RType.Written

set_option autoImplicit false

namespace FloppyTrack.RType

theorem decoded_A (start : Track) (c : Cursor) :
    ((codecA.decode start).run c).1.result =
      (fun place => found start geometryA place.1 place.2) <$>
        ((scan .rTypeA mark lookA).run c).1.result := rfl

theorem decoded_B (start : Track) (c : Cursor) :
    ((codecB.decode start).run c).1.result =
      (fun place => { found start geometryB place.1 place.2 with total := 105500 }) <$>
        ((scan .rTypeB mark lookB).run c).1.result := rfl

theorem outcome_A (start : Track) (r : Revolution) :
    codecA.outcome start r =
      (fun place => found start geometryA place.1 place.2) <$>
        ((scan .rTypeA mark lookA).run (Cursor.start r 3)).1.result :=
  decoded_A start (Cursor.start r 3)

theorem outcome_B (start : Track) (r : Revolution) :
    codecB.outcome start r =
      (fun place => { found start geometryB place.1 place.2 with total := 105500 }) <$>
        ((scan .rTypeB mark lookB).run (Cursor.start r 3)).1.result :=
  decoded_B start (Cursor.start r 3)

theorem regenerated_A_decodes (written start : Track) (size : written.data.length = 5968)
    (room : 95552 ≤ written.total) :
    codecA.outcome start (codecA.emit written).toRevolution =
      .ok { start with
        offset := written.offset % written.total, geometry := geometryA, size := 5968,
        goodSectors := 1, data := written.data } := by
  have search := variantA.search_own written written.total written.offset size room
  rw [outcome_A]
  exact congrArg (Functor.map _) search

-- The shortest track that holds the block has no gap, and its mark starts on the last cell.
theorem tight_A_decodes :
    codecA.outcome .unformatted (codecA.emit { Track.unformatted with
        offset := 95551, total := 95552, data := List.replicate 5968 0x4e }).toRevolution =
      .ok { Track.unformatted with
        offset := 95551, geometry := geometryA, size := 5968, goodSectors := 1,
        data := List.replicate 5968 0x4e } :=
  regenerated_A_decodes { Track.unformatted with
    offset := 95551, total := 95552, data := List.replicate 5968 0x4e } .unformatted
    List.length_replicate (Nat.le_refl _)

theorem regenerated_B_decodes (written start : Track) (size : written.data.length = 6552)
    (room : 104928 ≤ written.total) :
    codecB.outcome start (codecB.emit written).toRevolution =
      .ok { start with
        offset := written.offset % written.total, total := 105500, geometry := geometryB,
        size := 6552, goodSectors := 1, data := written.data } := by
  have search := variantB.search_own written written.total written.offset size room
  rw [outcome_B]
  exact congrArg (Functor.map _) search

theorem tight_B_decodes :
    codecB.outcome .unformatted (codecB.emit { Track.unformatted with
        offset := 104927, total := 104928, data := List.replicate 6552 0x4e }).toRevolution =
      .ok { Track.unformatted with
        offset := 104927, total := 105500, geometry := geometryB, size := 6552, goodSectors := 1,
        data := List.replicate 6552 0x4e } :=
  regenerated_B_decodes { Track.unformatted with
    offset := 104927, total := 104928, data := List.replicate 6552 0x4e } .unformatted
    List.length_replicate (Nat.le_refl _)

end FloppyTrack.RType
