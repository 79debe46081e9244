import FloppyTrack.Disk
import FloppyTrack.Proofs.Recognition

set_option autoImplicit false

namespace FloppyTrack

theorem Format.codec_listed {format : Format} {codec : Codec} (known : format.codec = .ok codec) :
    codec ∈ Catalog.codecs ∧ codec.format = format := by
  unfold Format.codec at known
  split at known
  · rename_i found
    cases known
    exact ⟨List.mem_of_find?_eq_some found, by simpa using List.find?_some found⟩
  · cases known

theorem Catalog.codec_cases {p : Codec → Prop} (long : ∀ t ∈ LongTrack.all, p t.codec)
    (key : p KeyTrack.codec) (variantA : p RType.codecA) (variantB : p RType.codecB) (codec : Codec)
    (listed : codec ∈ Catalog.codecs) : p codec := by
  simp only [codecs, protections, rTypes, List.mem_append, List.mem_map, List.mem_cons,
    List.not_mem_nil, or_false] at listed
  rcases listed with (⟨t, member, rfl⟩ | rfl) | rfl | rfl
  · exact long t member
  · exact key
  · exact variantA
  · exact variantB

theorem LongTrack.codec_listed (t : LongTrack) (listed : t ∈ all) : t.codec ∈ Catalog.codecs :=
  List.mem_append_left _ (List.mem_append_left _ (List.mem_map_of_mem listed))

theorem Format.listed_codec (codec : Codec) (listed : codec ∈ Catalog.codecs) :
    codec.format.codec = .ok codec := by
  refine Catalog.codec_cases (p := fun codec => codec.format.codec = .ok codec) ?_ rfl rfl rfl codec
    listed
  intro t member
  simp only [LongTrack.all, List.mem_cons, List.not_mem_nil, or_false] at member
  rcases member with rfl | rfl | rfl | rfl | rfl | rfl | rfl | rfl <;> rfl

namespace Disk

-- The formats of `formats` are tried on track `n`, and `format` is committed as `track`.
structure Commits (disk : Disk) (n : Nat) (formats : List Format) (source : Revolution)
    (format : Format) (track : Track) : Prop where
  result : (disk.identify n formats source).1.result = .ok (some format)
  kept : (disk.identify n formats source).2 = disk.set n track

variable {disk : Disk} {n : Nat} {source : Revolution} {format : Format} {codec : Codec}

theorem decode_accepts {track : Track} (within : n < disk.size) (known : format.codec = .ok codec)
    (accepts : codec.outcome (Track.new codec.format codec.geometry) source = .ok track) :
    (disk.decode n format source).1.result = .ok track ∧
      (disk.decode n format source).2 = disk.set n track := by
  have recognised : (codec.recognise source).result = .ok track := accepts
  rw [decode, if_pos within, known]
  dsimp only
  rw [recognised]
  exact ⟨rfl, rfl⟩

theorem decode_declines {error : Fault} (within : n < disk.size) (known : format.codec = .ok codec)
    (declines : codec.outcome (Track.new codec.format codec.geometry) source = .error error) :
    (disk.decode n format source).1.result = .error error := by
  have recognised : (codec.recognise source).result = .error error := declines
  rw [decode, if_pos within, known]
  dsimp only
  rw [recognised]

theorem accepted_decode {track : Track}
    (decoded : (disk.decode n format source).1.result = .ok track) :
    ∃ codec, format.codec = .ok codec ∧ n < disk.size ∧
      codec.outcome (Track.new codec.format codec.geometry) source = .ok track ∧
      (disk.decode n format source).2 = disk.set n track := by
  by_cases within : n < disk.size
  · cases known : format.codec with
    | error error =>
      rw [decode, if_pos within, known] at decoded
      cases decoded
    | ok codec =>
      cases recognised : codec.outcome (Track.new codec.format codec.geometry) source with
      | error error =>
        rw [decode_declines within known recognised] at decoded
        cases decoded
      | ok other =>
        obtain ⟨result, kept⟩ := decode_accepts within known recognised
        rw [result] at decoded
        cases decoded
        exact ⟨codec, rfl, within, recognised, kept⟩
  · rw [decode, if_neg within] at decoded
    cases decoded

theorem failed_decode {error : Fault}
    (failed : (disk.decode n format source).1.result = .error error) :
    (disk.decode n format source).2 = disk := by
  unfold decode at failed ⊢
  split
  · cases known : format.codec with
    | error error => rfl
    | ok codec =>
      simp only [known] at failed ⊢
      cases recognised : (codec.recognise source).result with
      | error error => rfl
      | ok track =>
        simp only [recognised] at failed
        split at failed <;> cases failed
  · rfl

theorem encode_entry {track : Track} (entry : disk.get? n = some track)
    (known : track.format.codec = .ok codec) :
    disk.encode n = ⟨.ok (codec.emit track).toRevolution, (codec.emit track).events⟩ := by
  have formatted : track.isFormatted = true := by
    rw [Track.isFormatted]
    refine decide_eq_true ?_
    intro blank
    rw [blank] at known
    cases known
  rw [encode, entry]
  dsimp only
  rw [if_pos formatted, known]

theorem accepted_first {track : Track} (formats : List Format)
    (decoded : (disk.decode n format source).1.result = .ok track) :
    disk.Commits n (format :: formats) source format track := by
  obtain ⟨-, -, within, -, kept⟩ := accepted_decode decoded
  constructor <;> rw [identify, if_pos within, identifyAmong] <;> dsimp only <;> rw [decoded]
  exact kept

theorem first_commits {track : Track} {formats : List Format} (within : n < disk.size)
    (known : format.codec = .ok codec)
    (accepts : codec.outcome (Track.new codec.format codec.geometry) source = .ok track) :
    disk.Commits n (format :: formats) source format track :=
  accepted_first formats (decode_accepts within known accepts).1

theorem declined_skipped {error : Fault} (formats : List Format) (within : n < disk.size)
    (failed : (disk.decode n format source).1.result = .error error)
    (misfit : error.isMisfit = true) :
    (disk.identify n (format :: formats) source).1.result =
        (disk.identify n formats source).1.result ∧
      (disk.identify n (format :: formats) source).2 = (disk.identify n formats source).2 := by
  rw [identify, identify, if_pos within, if_pos within, identifyAmong]
  dsimp only
  rw [failed, failed_decode failed]
  dsimp only
  rw [if_pos misfit]
  exact ⟨rfl, rfl⟩

theorem misfit_skipped {error : Fault} (formats : List Format) (within : n < disk.size)
    (known : format.codec = .ok codec)
    (declines : codec.outcome (Track.new codec.format codec.geometry) source = .error error)
    (misfit : error.isMisfit = true) :
    (disk.identify n (format :: formats) source).1.result =
        (disk.identify n formats source).1.result ∧
      (disk.identify n (format :: formats) source).2 = (disk.identify n formats source).2 :=
  declined_skipped formats within (decode_declines within known declines) misfit

theorem misfit_passes {error : Fault} {formats : List Format} {other : Format} {track : Track}
    (within : n < disk.size) (known : format.codec = .ok codec)
    (declines : codec.outcome (Track.new codec.format codec.geometry) source = .error error)
    (misfit : error.isMisfit = true) (rest : disk.Commits n formats source other track) :
    disk.Commits n (format :: formats) source other track := by
  obtain ⟨result, kept⟩ := misfit_skipped formats within known declines misfit
  exact ⟨result.trans rest.result, kept.trans rest.kept⟩

-- An identification commits what the decode of one format would, or leaves the disk as it is.
theorem identify_commits_or_keeps (disk : Disk) (n : Nat) (formats : List Format)
    (source : Revolution) :
    (∃ format track, (disk.identify n formats source).1.result = .ok (some format) ∧
      (disk.decode n format source).1.result = .ok track ∧
        (disk.identify n formats source).2 = disk.set n track) ∨
    ((∀ format, (disk.identify n formats source).1.result ≠ .ok (some format)) ∧
      (disk.identify n formats source).2 = disk) := by
  rw [identify]
  split
  · induction formats with
    | nil => exact .inr ⟨nofun, rfl⟩
    | cons format formats ih =>
      rw [identifyAmong]
      cases decoded : (disk.decode n format source).1.result with
      | ok track =>
        obtain ⟨-, -, -, -, kept⟩ := accepted_decode decoded
        dsimp only
        rw [decoded]
        exact .inl ⟨format, track, rfl, decoded, kept⟩
      | error error =>
        dsimp only
        rw [decoded, failed_decode decoded]
        dsimp only
        split
        · exact ih
        · exact .inr ⟨nofun, rfl⟩
  · exact .inr ⟨nofun, rfl⟩

end Disk

end FloppyTrack
