import FloppyTrack.Proofs.Offsets

set_option autoImplicit false

namespace FloppyTrack

namespace Format

-- Bytes of data on a track of the format.
def dataSize : Format → Nat
  | .protec => 1
  | .sevenCities => 122
  | .rTypeA => 5968
  | .rTypeB => 6552
  | _ => 0

-- Cells of the turn that a track of the format is regenerated as.
def total : Format → Nat
  | .protec | .crystals | .bat | .empty => 110000
  | .gremlin | .infogrames | .rTypeB => 105500
  | .powerPack => 111000
  | .sevenCities => 101500
  | .tiertex | .rTypeA | .unformatted => 100150

end Format

-- A track with all that a track of its format has, which its codec writes on one turn.
structure Track.Complete (track : Track) (codec : Codec) : Prop where
  known : track.format.codec = .ok codec
  data : track.data.length = track.size
  size : track.size = track.format.dataSize
  total : track.total = track.format.total
  geometry : track.geometry = codec.geometry
  good : track.goodSectors = track.geometry.fullMask
  turn : (codec.emit track).total = track.total
  fits : (codec.emit track).size ≤ track.total

section
variable {source : Revolution} {track : Track}

theorem LongTrack.keeps (t : LongTrack) (listed : t ∈ all)
    (found : t.codec.outcome (Track.new t.codec.format t.codec.geometry) source = .ok track) :
    track.Complete t.codec := by
  have table : ∀ t ∈ all, t.committed = t.format.total ∧
      t.writtenCells t.committed ≤ t.committed ∧ (t.mark = none → t.format.dataSize = 0) := by
    decide
  have sizes : ∀ t ∈ all, ∀ byte, (t.dataOf byte).length = t.format.dataSize := by
    intro t listed byte
    simp only [all, List.mem_cons, List.not_mem_nil, or_false] at listed
    rcases listed with rfl | rfl | rfl | rfl | rfl | rfl | rfl | rfl <;> rfl
  have known := Format.listed_codec t.codec (t.codec_listed listed)
  obtain ⟨total, fits, bare⟩ := table t listed
  obtain ⟨emitted, turn⟩ := emit_size t track
  have whole : track.total = t.committed → (t.codec.emit track).size ≤ track.total := by
    intro same
    rwa [emitted, same]
  cases marked : t.mark with
  | none =>
    rw [outcome_measured marked] at found
    split at found
    · cases found
      exact ⟨known, rfl, (bare marked).symm, total, rfl, rfl, turn, whole rfl⟩
    · cases found
  | some mark =>
    obtain ⟨offset, byte, -, rfl⟩ := outcome_reports marked found
    exact ⟨known, rfl, sizes t listed byte, total, rfl, rfl, turn, whole rfl⟩

theorem KeyTrack.keeps
    (found : KeyTrack.codec.outcome (Track.new codec.format codec.geometry) source = .ok track) :
    track.Complete codec := by
  obtain ⟨data, genuine, rfl⟩ := outcome_genuine found
  obtain ⟨-, total, -⟩ := emit_lays (keep (Track.new codec.format codec.geometry) data)
  have lays := kept_lays (Track.new codec.format codec.geometry) genuine.length
  refine ⟨rfl, genuine.length, rfl, rfl, rfl, rfl, total, ?_⟩
  rw [Emission.lays_size lays]
  simp only [List.length_append, List.length_replicate, Sync.cells_length, byte_bits_length,
    Bits.of_nat_length, genuine.length]
  change _ ≤ 101500
  decide

-- A variant whose accepted tracks are `kept`.
theorem RType.Variant.keeps (v : Variant) {codec : Codec} (kept : Nat × List UInt8 → Track)
    (writes : codec.encode = v.encode) (known : codec.format.codec = .ok codec)
    (fields : ∀ place, (kept place).format = codec.format ∧ (kept place).data = place.2 ∧
      (kept place).size = v.size ∧ (kept place).total = codec.format.total ∧
      (kept place).geometry = codec.geometry ∧
      (kept place).goodSectors = (kept place).geometry.fullMask)
    (size : v.size = codec.format.dataSize) (room : 16 + 2 * v.count ≤ codec.format.total)
    (found : kept <$> ((scan v.format mark v.look).run (Cursor.start source 3)).1.result =
      .ok track) : track.Complete codec := by
  cases sought : ((scan v.format mark v.look).run (Cursor.start source 3)).1.result with
  | error error =>
    rw [sought] at found
    cases found
  | ok place =>
    rw [sought] at found
    cases found
    obtain ⟨format, data, kept_size, total, geometry, good⟩ := fields place
    obtain ⟨-, -, carries⟩ := v.search_found sought
    have length : (kept place).data.length = v.size := by rw [data, carries.size]
    have lays := v.lays (kept place) (kept place).total (kept place).offset
    have turn := (v.placed (kept place) (kept place).total (kept place).offset).1
    rw [← writes] at lays turn
    refine ⟨by rw [format, known], by rw [length, kept_size], by rw [kept_size, size, format],
      by rw [total, format], geometry, good, turn, ?_⟩
    change (codec.encode _ _).size ≤ _
    rw [Emission.lays_size lays, v.bits_length _ length, total]
    exact room

theorem Catalog.keeps (codec : Codec) (listed : codec ∈ codecs)
    (found : codec.outcome (Track.new codec.format codec.geometry) source = .ok track) :
    track.Complete codec := by
  revert found
  refine codec_cases (p := fun codec =>
    codec.outcome (Track.new codec.format codec.geometry) source = .ok track →
      track.Complete codec) ?_ ?_ ?_ ?_ codec listed
  · exact LongTrack.keeps
  · exact KeyTrack.keeps
  · intro found
    rw [RType.outcome_A] at found
    have writes : RType.codecA.encode = RType.variantA.encode := rfl
    exact RType.variantA.keeps _ writes rfl (fun _ => ⟨rfl, rfl, rfl, rfl, rfl, rfl⟩) rfl (by decide)
      found
  · intro found
    rw [RType.outcome_B] at found
    have writes : RType.codecB.encode = RType.variantB.encode := rfl
    exact RType.variantB.keeps _ writes rfl (fun _ => ⟨rfl, rfl, rfl, rfl, rfl, rfl⟩) rfl (by decide)
      found

end

namespace Disk

inductive Call where
  | decode (n : Nat) (format : Format) (source : Revolution)
  | identify (n : Nat) (formats : List Format) (source : Revolution)
  | clear (n : Nat)

-- The table behind a call, whether it succeeded or not.
def after (disk : Disk) : Call → Disk
  | .decode n format source => (disk.decode n format source).2
  | .identify n formats source => (disk.identify n formats source).2
  | .clear n =>
    match disk.clear n with
    | .ok next => next
    | .error _ => disk

def run (disk : Disk) (calls : List Call) : Disk := calls.foldl after disk

-- All that a call can do to a table.
inductive Change (disk : Disk) : Disk → Prop
  | none : Change disk disk
  | cleared (n : Nat) : Change disk (disk.set n .unformatted)
  | committed (n : Nat) {codec : Codec} {source : Revolution} {track : Track}
      (listed : codec ∈ Catalog.codecs)
      (found : codec.outcome (Track.new codec.format codec.geometry) source = .ok track) :
      Change disk (disk.set n track)

theorem decode_changes (disk : Disk) (n : Nat) (format : Format) (source : Revolution) :
    disk.Change (disk.decode n format source).2 := by
  cases decoded : (disk.decode n format source).1.result with
  | error error =>
    rw [failed_decode decoded]
    exact .none
  | ok track =>
    obtain ⟨codec, known, -, found, kept⟩ := accepted_decode decoded
    rw [kept]
    exact .committed n (Format.codec_listed known).1 found

theorem identify_changes (disk : Disk) (n : Nat) (formats : List Format) (source : Revolution) :
    disk.Change (disk.identify n formats source).2 := by
  rcases disk.identify_commits_or_keeps n formats source with
    ⟨format, track, -, decoded, kept⟩ | ⟨-, kept⟩
  · obtain ⟨codec, known, -, found, -⟩ := accepted_decode decoded
    rw [kept]
    exact .committed n (Format.codec_listed known).1 found
  · rw [kept]
    exact .none

theorem after_changes (disk : Disk) (call : Call) : disk.Change (disk.after call) := by
  cases call with
  | decode n format source => exact disk.decode_changes n format source
  | identify n formats source => exact disk.identify_changes n formats source
  | clear n =>
    rw [after, clear]
    split <;> rename_i result <;> split at result
    · cases result
      exact .cleared n
    · cases result
    · exact .none
    · exact .none

structure Kept (disk : Disk) (n : Nat) : Prop where
  size : disk.size = n
  entries : ∀ track ∈ disk.tracks, track = .unformatted ∨ ∃ codec, track.Complete codec

theorem blank_kept (n : Nat) : (blank n).Kept n :=
  ⟨List.length_replicate, fun _ member => .inl (List.eq_of_mem_replicate member)⟩

theorem set_kept {disk : Disk} {n : Nat} (kept : disk.Kept n) (i : Nat) {track : Track}
    (whole : track = .unformatted ∨ ∃ codec, track.Complete codec) : (disk.set i track).Kept n := by
  refine ⟨List.length_set.trans kept.size, fun other member => ?_⟩
  rcases List.mem_or_eq_of_mem_set member with old | rfl
  · exact kept.entries other old
  · exact whole

theorem change_kept {disk next : Disk} {n : Nat} (kept : disk.Kept n) (change : disk.Change next) :
    next.Kept n := by
  cases change with
  | none => exact kept
  | cleared i => exact set_kept kept i (.inl rfl)
  | committed i listed found => exact set_kept kept i (.inr ⟨_, Catalog.keeps _ listed found⟩)

theorem run_kept {n : Nat} (calls : List Call) (disk : Disk) (kept : disk.Kept n) :
    (disk.run calls).Kept n := by
  induction calls generalizing disk with
  | nil => exact kept
  | cons call calls ih => exact ih (disk.after call) (change_kept kept (disk.after_changes call))

-- The entry `i` holds all of `track`, which is regenerated on one turn.
structure Holds (disk : Disk) (i : Nat) (track : Track) (codec : Codec) (turn : Revolution) :
    Prop where
  entry : disk.get? i = some track
  complete : track.Complete codec
  long : ∀ t ∈ LongTrack.all, t.format = track.format → t.minimum.getD 0 ≤ track.total
  encoded : (disk.encode i).result = .ok turn
  whole : ∀ emitted total, .overrun emitted total ∉ (disk.encode i).events
  length : turn.length = track.total

theorem entry_holds {disk : Disk} {i : Nat} {track : Track} {codec : Codec}
    (entry : disk.get? i = some track) (complete : track.Complete codec) :
    disk.Holds i track codec (codec.emit track).toRevolution := by
  have least : ∀ t ∈ LongTrack.all, t.minimum.getD 0 ≤ t.format.total := by decide
  have encoded := encode_entry entry complete.known
  refine ⟨entry, complete, ?_, by rw [encoded], ?_, ?_⟩
  · intro t listed same
    rw [complete.total, ← same]
    exact least t listed
  · intro emitted total overruns
    have fits : ¬ (codec.emit track).total < (codec.emit track).size := by
      rw [complete.turn]
      exact Nat.not_lt_of_le complete.fits
    simp only [encoded, Emission.events, if_neg fits] at overruns
    split at overruns <;> simp at overruns
  · rw [Emission.to_revolution_length, complete.turn]

end Disk

theorem table_well_kept (n : Nat) (calls : List Disk.Call) :
    ((Disk.blank n).run calls).size = n ∧
      ∀ i track, ((Disk.blank n).run calls).get? i = some track →
        track = .unformatted ∨ ∃ codec turn,
          ((Disk.blank n).run calls).Holds i track codec turn := by
  obtain ⟨size, entries⟩ := Disk.run_kept calls _ (Disk.blank_kept n)
  refine ⟨size, fun i track entry => ?_⟩
  rcases entries track (List.mem_of_getElem? entry) with blank | ⟨codec, complete⟩
  · exact .inl blank
  · exact .inr ⟨codec, _, Disk.entry_holds entry complete⟩

-- A track is found, and neither a call for no such track nor one for no such format removes it.
theorem found_stays {source : Revolution} {track : Track}
    (found : LongTrack.gremlin.codec.outcome (Track.new .gremlin .none) source = .ok track) :
    ((Disk.blank 2).run [.identify 1 [.gremlin] source, .clear 2,
      .decode 1 .unformatted source]).get? 1 = some track := by
  have committed : (Disk.blank 2).Commits 1 [.gremlin] source .gremlin track :=
    Disk.first_commits (by decide) rfl found
  simp only [Disk.run, List.foldl_cons, List.foldl_nil, Disk.after, committed.kept]
  rfl

theorem slow_track_held :
    ((Disk.blank 2).run [.identify 1 [.gremlin] slowTurn, .clear 2,
        .decode 1 .unformatted slowTurn]).get? 1 = some slowTrack ∧
      ∃ codec turn, ((Disk.blank 2).run [.identify 1 [.gremlin] slowTurn, .clear 2,
        .decode 1 .unformatted slowTurn]).Holds 1 slowTrack codec turn := by
  have entry := found_stays slow_recognised
  have formatted : slowTrack ≠ .unformatted := by decide
  exact ⟨entry, ((table_well_kept 2 _).2 1 slowTrack entry).resolve_left formatted⟩

end FloppyTrack
