import FloppyTrack.Proofs.Detection
import FloppyTrack.Proofs.LongTrack.Apart
import FloppyTrack.Proofs.Table

set_option autoImplicit false

namespace FloppyTrack

namespace LongTrack

theorem before_declines (t : LongTrack) (listed : t ∈ all) (track : Track)
    (total : track.total = t.committed) (codec : Codec)
    (tried : codec ∈ Catalog.before t.told.format) :
    codec.accepted? (t.codec.emit track).toRevolution = none := by
  have parts : all = protec :: fixedFills := rfl
  rw [parts, List.mem_cons] at listed
  rcases listed with rfl | fixed
  · have first : Catalog.before protec.told.format = [] := rfl
    rw [first] at tried
    cases tried
  · have table : ∀ t ∈ fixedFills, t.told ∈ all ∧ (t.told = empty → t = empty) := by decide
    obtain ⟨known, unmistaken⟩ := table t fixed
    rw [(Catalog.before_long t.told known).2, List.mem_append] at tried
    rcases tried with long | key
    · obtain ⟨other, earlier, rfl⟩ := List.mem_map.mp long
      exact Codec.declines (earlier_declines fixed track total earlier _)
    · split at key
      · rename_i told
        obtain rfl := unmistaken told
        obtain rfl := List.mem_singleton.mp key
        -- The key track is led in by a mark of the same cells as that of Power Pack.
        have earlier : powerPack ∈ empty.told.earlier := by decide
        have marked : powerPack.mark = some KeyTrack.leadMark := rfl
        have unseen := earlier_unseen fixed track total earlier marked (by decide)
        exact Codec.declines (KeyTrack.outcome_unled _ unseen)
      · cases key

theorem told_accepts {t : LongTrack} {turn : Revolution} {again : Track}
    (accepted : t.codec.accepted? turn = some again) :
    ∃ other, t.told.codec.accepted? turn = some other := by
  by_cases mistaken : t = tiertex
  · subst mistaken
    have alike : (tiertex.codec.accepted? turn).map Track.offset =
        (gremlin.codec.accepted? turn).map Track.offset := tiertex_alike turn
    rw [accepted] at alike
    obtain ⟨other, found, -⟩ := Option.map_eq_some_iff.mp alike.symm
    exact ⟨other, found⟩
  · rw [told, if_neg mistaken]
    exact ⟨again, accepted⟩

end LongTrack

-- The turn of entry `n` is taken for a track of the format `taken`, and not for one of a format that is
-- tried before.
structure Disk.Detects (disk : Disk) (n : Nat) (taken : Format) (turn : Revolution) (again : Track) :
    Prop where
  encoded : (disk.encode n).result = .ok turn
  detected : Track.detect? turn = some again
  format : again.format = taken
  declined : ∀ codec ∈ Catalog.before taken, codec.accepted? turn = none

theorem regenerated_detected (disk : Disk) (n : Nat) (format : Format) (source : Revolution)
    (track : Track) (long : format ∈ LongTrack.all.map LongTrack.format)
    (decoded : (disk.decode n format source).1.result = .ok track) :
    ∃ turn again, (disk.decode n format source).2.Detects n
      (if format = .tiertex then .gremlin else format) turn again := by
  obtain ⟨t, listed, rfl⟩ := List.mem_map.mp long
  obtain ⟨codec, known, within, found, kept⟩ := Disk.accepted_decode decoded
  have member := t.codec_listed listed
  obtain rfl : t.codec = codec :=
    Except.ok.inj ((Format.listed_codec t.codec member).symm.trans known)
  have table : ∀ t ∈ LongTrack.all, t.committed = t.format.total ∧ t.told ∈ LongTrack.all ∧
      t.told.format = if t.format = .tiertex then .gremlin else t.format := by
    decide
  obtain ⟨committed, told_listed, told_format⟩ := table t listed
  have restores := Catalog.restores t.codec member found
  have complete := LongTrack.keeps t listed found
  have total : track.total = t.committed := by
    rw [complete.total, restores.format, committed]
    rfl
  have entry : (disk.decode n t.format source).2.get? n = some track := by
    rw [kept]
    exact List.getElem?_set_self within
  have encoded := congrArg Report.result (Disk.encode_entry entry complete.known)
  obtain ⟨again, regenerated, -⟩ := restores.again
  obtain ⟨other, accepted⟩ := LongTrack.told_accepts (Codec.accepts regenerated)
  have declined := LongTrack.before_declines t listed track total
  have detected := Catalog.detected t.told told_listed declined accepted
  rw [← told_format]
  exact ⟨_, other, encoded, detected,
    Codec.accepted_format (t.told.codec_listed told_listed) accepted, declined⟩

-- Its mark lies across the index pulse, and zeros and mark together show that of Crystals Of Arborea.
def wrappedTrack : Track := { Track.new .infogrames .none with offset := 105495, total := 105500 }

def wrappedTurn : Revolution := (LongTrack.infogrames.codec.emit wrappedTrack).toRevolution

theorem wrapped_decoded :
    ((Disk.blank 1).decode 0 .infogrames wrappedTurn).1.result = .ok wrappedTrack := by
  have fills : LongTrack.infogrames.Fills 105500 342 := by constructor <;> decide
  exact (Disk.decode_accepts (by decide) rfl
    (LongTrack.infogrames_alone.regenerated (Track.new .infogrames .none) wrappedTrack fills)).1

theorem wrapped_detected :
    ((Disk.blank 1).decode 0 .infogrames wrappedTurn).1.result = .ok wrappedTrack ∧
      ∃ turn again, ((Disk.blank 1).decode 0 .infogrames wrappedTurn).2.Detects 0 .infogrames turn
        again :=
  ⟨wrapped_decoded,
    regenerated_detected (Disk.blank 1) 0 .infogrames wrappedTurn wrappedTrack (by decide)
      wrapped_decoded⟩

end FloppyTrack
