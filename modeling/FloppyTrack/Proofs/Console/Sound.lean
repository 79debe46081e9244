import FloppyTrack.Proofs.Console.Turns
import FloppyTrack.Proofs.Dump
import FloppyTrack.Proofs.Table

set_option autoImplicit false

namespace FloppyTrack

-- A dump of what a track is regenerated as is read as that.
theorem Disk.Holds.reread {disk : Disk} {i : Nat} {track : Track} {codec : Codec} {turn : Revolution}
    (holds : disk.Holds i track codec turn) : Dump.parse (Dump.render turn) = .ok turn := by
  have totals : ∀ format : Format, format.total ≠ 0 ∧ format.total < 2 ^ 32 := by
    intro format
    cases format <;> decide
  obtain ⟨long, fits⟩ := totals track.format
  have length : turn.length = track.format.total := holds.length.trans holds.complete.total
  have tight : turn.Tight := by
    have encoded := holds.encoded
    rw [encode_entry holds.entry holds.complete.known] at encoded
    cases encoded
    exact Revolution.of_bits_tight _
  rw [Dump.parse_render turn tight (by rw [length]; exact fits), if_neg (by rw [length]; exact long)]

namespace Console

theorem track_number_fits {text : String} {n : Nat} (number : trackNumber? text = some n) :
    n < trackLimit := by
  unfold trackNumber? at number
  split at number
  · split at number
    · cases number
      assumption
    · cases number
  · cases number

theorem load_track_fits {words : List String} {n : Nat} (set : loadTrack? words = some n) :
    n < trackLimit := by
  unfold loadTrack? at set
  split at set
  · split at set
    · exact track_number_fits set
    · cases set
  · cases set

namespace Session

structure Sound (s : Session) : Prop where
  track : s.track < trackLimit
  disk : s.disk.Kept trackLimit
  named : s.filename.isSome = s.cells.isSome
  filled : ∀ cells, s.cells = some cells → 0 < cells.length

theorem start_sound : start.Sound :=
  ⟨by decide, Disk.blank_kept trackLimit, rfl, nofun⟩

variable {s : Session} {words : List String}

theorem aimed_sound (sound : s.Sound) (words : List String) : (s.aimed words).Sound := by
  refine ⟨?_, sound.disk, sound.named, sound.filled⟩
  cases set : loadTrack? words with
  | none =>
    rw [aimed_none set]
    exact sound.track
  | some n =>
    rw [aimed_some set]
    exact load_track_fits set

theorem turn_sound {reply : Reply} (sound : s.Sound) (turn : s.Turns words reply) :
    reply.session.Sound := by
  cases turn with
  | told lines quit => exact aimed_sound sound words
  | moved named number =>
    exact ⟨track_number_fits number, sound.disk, sound.named, sound.filled⟩
  | loaded parsed =>
    obtain ⟨track, disk, -, -⟩ := aimed_sound sound words
    refine ⟨track, disk, rfl, ?_⟩
    rintro cells ⟨⟩
    exact Dump.parse_some parsed
  | @decoded format cells track held found =>
    obtain ⟨codec, known, -, accepted, -⟩ := Disk.accepted_decode found
    have complete := Catalog.keeps codec (Format.codec_listed known).1 accepted
    exact ⟨sound.track, Disk.set_kept sound.disk s.track (.inr ⟨codec, complete⟩), sound.named,
      sound.filled⟩

theorem Sound.within (sound : s.Sound) : s.track < s.disk.size := by
  rw [sound.disk.size]
  exact sound.track

-- Either there is nothing to regenerate, or all of the track is.
theorem Sound.encodes (sound : s.Sound) :
    (s.decoded? = none ∧ (s.disk.encode s.track).result = .error (.unformatted s.track)) ∨
      ∃ track codec turn, s.decoded? = some track ∧ s.disk.Holds s.track track codec turn := by
  obtain ⟨track, entry⟩ : ∃ track, s.disk.get? s.track = some track :=
    ⟨_, List.getElem?_eq_getElem sound.within⟩
  rcases sound.disk.entries track (List.mem_of_getElem? entry) with rfl | ⟨codec, complete⟩
  · refine .inl ⟨?_, ?_⟩
    · rw [decoded?, current?, entry]
      rfl
    · rw [Disk.encode, entry]
      rfl
  · have holds := Disk.entry_holds entry complete
    refine .inr ⟨_, codec, _, ?_, holds⟩
    rw [decoded?, current?, entry, Option.filter_some, if_pos]
    rw [Track.isFormatted]
    refine decide_eq_true fun blank => ?_
    have known := complete.known
    rw [blank] at known
    cases known

end Session

end Console

end FloppyTrack
