import FloppyTrack.Proofs.KeyTrack

set_option autoImplicit false

namespace FloppyTrack.KeyTrack

-- The block behind two marks, with `lead` and `place` cells read on the way to the end of each.
structure Stands (source : Revolution) (turns lead place : Nat) (data : List UInt8) : Prop where
  order : lead < place
  room : place + 976 ≤ turns * source.length
  leadMark : 16 ≤ lead ∧ source.stretch (lead - 16) 16 = Bits.ofNat 16 0x924a
  dataMark : 16 ≤ place ∧ source.stretch (place - 16) 16 = Bits.ofNat 16 0x9251
  size : data.length = 122
  block : byteBits data = source.stretch place 976
  crc : Crc16.update 0xffff (Encoding.mfm.decodeBlock 61 data) = 0x010a

section
variable {source : Revolution}

-- Both marks start with a set cell, and so neither is seen before the whole of it was read.
theorem mark_read {mark : Sync} {n : Nat} (proper : mark.Proper)
    (leads : mark.cells.head? = some true) (seen : mark.seenAt source n = true) :
    mark.bits ≤ n ∧ source.stretch (n - mark.bits) mark.bits = mark.cells := by
  have whole : mark.cells = [] ++ mark.cells := rfl
  have read := Sync.seen_core proper whole leads seen
  rwa [Sync.cells_length] at read

theorem block_stands {turns lead place stop : Nat} {data : List UInt8}
    (led : leadMark.seenAt source lead = true) (order : lead < place)
    (within : place ≤ turns * source.length) (marked : dataMark.seenAt source place = true)
    (takes : look.Takes source turns place (.accept data) stop) :
    Stands source turns lead place data := by
  obtain ⟨room, cells, genuine⟩ := accepted_block within takes
  have decoded : Encoding.mfm.decodeBlock 61 data = dataBytes data :=
    congrArg dataBytes (List.take_of_length_le (Nat.le_of_eq genuine.length))
  refine ⟨order, room, mark_read proper_marks.1 rfl led, mark_read proper_marks.2 rfl marked,
    genuine.length, ?_, ?_⟩
  · rw [cells, octet_bits]
    rfl
  · rw [decoded]
    exact genuine.crc

theorem accepted_block_stands (source : Revolution) (turns : Nat) (start track : Track)
    (found : ((codec.decode start).run (Cursor.start source turns)).1.result = .ok track) :
    ∃ lead place, Stands source turns lead place track.data ∧
      track = { start with
        size := 122, offset := 76000, total := 101500, data := track.data } := by
  rcases led_or_unled source turns with ⟨lead, first, within⟩ | unseen
  · obtain ⟨result, course, outcome⟩ := decoded_led start first within
    have kept := outcome.symm.trans found
    cases result with
    | error error => cases kept
    | ok data =>
      cases kept
      obtain ⟨place, stop, order, reached, marked, takes⟩ := course.found_at
      exact ⟨lead, place, block_stands first.holds order reached marked takes, rfl⟩
  · have missed := (unled_run start unseen).1.symm.trans found
    cases missed

-- Both marks also stand in the block itself.
theorem marked_block_stands :
    ((codec.decode (Track.new .sevenCities .none)).run
        (Cursor.start (codec.emit markedBlock).toRevolution 3)).1.result = .ok markedBlock ∧
      ∃ lead place, Stands (codec.emit markedBlock).toRevolution 3 lead place markedBlock.data ∧
        markedBlock = { Track.new .sevenCities .none with
          size := 122, offset := 76000, total := 101500, data := markedBlock.data } := by
  have found : ((codec.decode (Track.new .sevenCities .none)).run
      (Cursor.start (codec.emit markedBlock).toRevolution 3)).1.result = .ok markedBlock := by
    rw [← Codec.outcome_run]
    exact regenerated (Track.new .sevenCities .none) (Track.new .sevenCities .none) marked_genuine
  exact ⟨found, accepted_block_stands _ 3 _ markedBlock found⟩

end

end FloppyTrack.KeyTrack
