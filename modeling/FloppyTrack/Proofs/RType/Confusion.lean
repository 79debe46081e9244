import FloppyTrack.Proofs.Identify
import FloppyTrack.Proofs.RType.Crossing

set_option autoImplicit false

namespace FloppyTrack.RType

section
variable (start track : Track)

theorem A_accepts_B (size : track.data.length = 6552) (total : track.total = 105500)
    (passes : passesAsA track.data) :
    ∃ data, data.length = 5968 ∧ codecA.outcome start (codecB.emit track).toRevolution =
      .ok (found start geometryA (track.offset % 105500) data) := by
  obtain ⟨data, carries⟩ := (A_carried_on_B_iff track track.offset size).mpr passes
  have search := variantA.search_carried variantB track 105500 track.offset data (by decide)
    (by decide) carries
  refine ⟨data, carries.size, ?_⟩
  rw [outcome_A, codecB, Codec.emit, total]
  exact congrArg (Functor.map _) search

theorem A_rejects_B (size : track.data.length = 6552) (total : track.total = 105500)
    (fails : ¬ passesAsA track.data) :
    codecA.outcome start (codecB.emit track).toRevolution = .error (.noMatch .rTypeA) := by
  have search := variantA.search_foreign variantB track 105500 track.offset (by decide)
    fun data carries => fails ((A_carried_on_B_iff track track.offset size).mp ⟨data, carries⟩)
  rw [outcome_A, codecB, Codec.emit, total]
  exact congrArg (Functor.map _) search

theorem B_accepts_A (size : track.data.length = 5968) (total : track.total = 100150)
    (passes : passesAsB track.data) :
    ∃ data, data.length = 6552 ∧ codecB.outcome start (codecA.emit track).toRevolution =
      .ok { found start geometryB (track.offset % 100150) data with total := 105500 } := by
  obtain ⟨data, carries⟩ := (B_carried_on_A_iff track track.offset size).mpr passes
  have search := variantB.search_carried variantA track 100150 track.offset data (by decide)
    (by decide) carries
  refine ⟨data, carries.size, ?_⟩
  rw [outcome_B, codecA, Codec.emit, total]
  exact congrArg (Functor.map _) search

theorem B_rejects_A (size : track.data.length = 5968) (total : track.total = 100150)
    (fails : ¬ passesAsB track.data) :
    codecB.outcome start (codecA.emit track).toRevolution = .error (.noMatch .rTypeB) := by
  have search := variantB.search_foreign variantA track 100150 track.offset (by decide)
    fun data carries => fails ((B_carried_on_A_iff track track.offset size).mp ⟨data, carries⟩)
  rw [outcome_B, codecA, Codec.emit, total]
  exact congrArg (Functor.map _) search

end

-- What decoding and identifying make of a track `a` of variant A and a track `b` of variant B.
structure ToldApart (a b start : Track) (disk : Disk) (n : Nat) : Prop where
  A_rejects : ¬ passesAsA b.data →
    codecA.outcome start (codecB.emit b).toRevolution = .error (.noMatch .rTypeA)
  A_mistakes : passesAsA b.data → ∃ data, data.length = 5968 ∧
    codecA.outcome start (codecB.emit b).toRevolution =
      .ok (found start geometryA (b.offset % 105500) data)
  B_rejects : ¬ passesAsB a.data →
    codecB.outcome start (codecA.emit a).toRevolution = .error (.noMatch .rTypeB)
  B_mistakes : passesAsB a.data → ∃ data, data.length = 6552 ∧
    codecB.outcome start (codecA.emit a).toRevolution =
      .ok { found start geometryB (a.offset % 100150) data with total := 105500 }
  A_identified : disk.Commits n [.rTypeA, .rTypeB] (codecA.emit a).toRevolution .rTypeA
    (found (Track.new .rTypeA geometryA) geometryA (a.offset % 100150) a.data)
  B_identified : ¬ passesAsA b.data →
    disk.Commits n [.rTypeA, .rTypeB] (codecB.emit b).toRevolution .rTypeB
      { found (Track.new .rTypeB geometryB) geometryB (b.offset % 105500) b.data with total := 105500 }
  B_misidentified : passesAsA b.data → ∃ data, data.length = 5968 ∧
    disk.Commits n [.rTypeA, .rTypeB] (codecB.emit b).toRevolution .rTypeA
      (found (Track.new .rTypeA geometryA) geometryA (b.offset % 105500) data)

theorem variants_told_apart (a b start : Track) (disk : Disk) (n : Nat) (within : n < disk.size)
    (sizeA : a.data.length = 5968) (totalA : a.total = 100150) (sizeB : b.data.length = 6552)
    (totalB : b.total = 105500) : ToldApart a b start disk n where
  A_rejects := A_rejects_B start b sizeB totalB
  A_mistakes := A_accepts_B start b sizeB totalB
  B_rejects := B_rejects_A start a sizeA totalA
  B_mistakes := B_accepts_A start a sizeA totalA
  A_identified := by
    have search := variantA.search_own a 100150 a.offset sizeA (by decide)
    refine Disk.first_commits within rfl ?_
    rw [outcome_A, codecA, Codec.emit, totalA]
    exact congrArg (Functor.map _) search
  B_identified fails := by
    have search := variantB.search_own b 105500 b.offset sizeB (by decide)
    have declines := A_rejects_B (Track.new .rTypeA geometryA) b sizeB totalB fails
    have accepts : codecB.outcome (Track.new .rTypeB geometryB) (codecB.emit b).toRevolution = .ok
        { found (Track.new .rTypeB geometryB) geometryB (b.offset % 105500) b.data with
          total := 105500 } := by
      rw [outcome_B, codecB, Codec.emit, totalB]
      exact congrArg (Functor.map _) search
    exact Disk.misfit_passes within rfl declines rfl
      (Disk.first_commits within rfl accepts)
  B_misidentified passes := by
    obtain ⟨data, size, accepts⟩ := A_accepts_B (Track.new .rTypeA geometryA) b sizeB totalB passes
    exact ⟨data, size, Disk.first_commits within rfl accepts⟩

theorem nonblank_B_identified :
    ¬ passesAsA (List.replicate 6552 0x4e) ∧
      (Disk.blank 2).Commits 1 [.rTypeA, .rTypeB]
        (codecB.emit { Track.unformatted with
          offset := 105499, total := 105500, data := List.replicate 6552 0x4e }).toRevolution .rTypeB
        { found (Track.new .rTypeB geometryB) geometryB 105499 (List.replicate 6552 0x4e) with
          total := 105500 } := by
  have fails : ¬ passesAsA (List.replicate 6552 0x4e) := by decide +kernel
  have apart := variants_told_apart { Track.unformatted with data := List.replicate 5968 0x4e }
    { Track.unformatted with offset := 105499, total := 105500, data := List.replicate 6552 0x4e }
    .unformatted (Disk.blank 2) 1 (by decide) List.length_replicate rfl List.length_replicate rfl
  exact ⟨fails, apart.B_identified fails⟩

def blankB : Track :=
  { Track.unformatted with total := 105500, data := List.replicate 6552 0 }

-- Its halves, read as a block of B, end in a checksum that is right.
def mimicA : Track :=
  { Track.unformatted with
    data := List.replicate 581 0 ++ [0x3f, 0xff, 0xff, 0xff, 0xc3, 0, 0, 0x3f] ++
      List.replicate 5379 0 }

theorem blank_passes : passesAsA blankB.data := by
  decide +kernel

theorem mimic_passes : passesAsB mimicA.data := by
  decide +kernel

theorem variants_confused :
    codecA.outcome .unformatted (codecB.emit blankB).toRevolution ≠ .error (.noMatch .rTypeA) ∧
      ((Disk.blank 1).identify 0 [.rTypeA, .rTypeB] (codecB.emit blankB).toRevolution).1.result =
        .ok (some .rTypeA) ∧
      codecB.outcome .unformatted (codecA.emit mimicA).toRevolution ≠ .error (.noMatch .rTypeB) := by
  have size : blankB.data.length = 6552 := List.length_replicate
  have mimicSize : mimicA.data.length = 5968 := by decide +kernel
  obtain ⟨data, _, blank⟩ := A_accepts_B .unformatted blankB size rfl blank_passes
  obtain ⟨_, _, accepts⟩ :=
    A_accepts_B (Track.new .rTypeA geometryA) blankB size rfl blank_passes
  obtain ⟨payload, _, mimic⟩ := B_accepts_A .unformatted mimicA mimicSize rfl mimic_passes
  rw [blank, mimic]
  exact ⟨nofun, (Disk.first_commits (by decide) rfl accepts).result, nofun⟩

end FloppyTrack.RType
