import FloppyTrack.Proofs.LongTrack.Protec

set_option autoImplicit false

namespace FloppyTrack.LongTrack.Protec

theorem this_turn_or_next {T m x : Nat} (same : m % T = x % T) (late : x < m + 2 * T)
    (early : m < x + T) : m = x ∨ m + T = x := by
  rcases Nat.lt_or_ge m x with before | behind
  · obtain ⟨k, apart⟩ := (Nat.modEq_iff_dvd' (Nat.le_of_lt before)).mp same
    match k, apart with
    | 0, apart => omega
    | 1, apart => omega
    | k + 2, apart =>
      rw [Nat.mul_add] at apart
      omega
  · obtain ⟨k, apart⟩ := (Nat.modEq_iff_dvd' behind).mp same.symm
    match k, apart with
    | 0, apart => omega
    | k + 1, apart =>
      rw [Nat.mul_add] at apart
      omega

-- How far behind the start of the mark the last place in the fill ends that is taken for the mark.
def reach (byte : UInt8) (shift : Nat) : Nat :=
  if splice shift byte 0 = splice shift byte byte then 16 * 5001 + 2 * shift
  else 16 * 5000 + 2 * shift

theorem reach_bounds (byte : UInt8) (shift : Nat) :
    16 * 5000 + 2 * shift ≤ reach byte shift ∧ reach byte shift ≤ 16 * 5001 + 2 * shift := by
  unfold reach
  split <;> omega

theorem within_reach {byte : UInt8} {q shift : Nat} :
    16 * (q + 1) + 2 * shift ≤ reach byte shift ↔
      q ≤ 4999 ∨ q = 5000 ∧ splice shift byte 0 = splice shift byte byte := by
  unfold reach
  split <;> rename_i ends <;> simp only [ends, and_true, and_false, or_false] <;> omega

namespace Candidate

variable {track : Track} {byte : UInt8} {gap m q shift : Nat}

theorem kinds (candidate : Candidate track byte gap m q shift) (ringed : Ringed track byte gap) :
    q = 0 ∧ (shift = 0 ∨ shift = 6 ∧ byte >>> 2 = 0x2e) ∨
      (0 < q ∧ q < 6000 ∧ splice shift byte byte = 0xae) ∨
        (q = 6000 ∧ (shift = 0 ∧ byte = 0xae ∨ shift = 1)) := by
  obtain ⟨-, within, small, -, shows⟩ := candidate
  have long := ringed.long
  rcases Nat.lt_trichotomy q 6000 with fill | rfl | behind
  · rcases Nat.eq_zero_or_pos q with rfl | behind
    · rw [ring_mark, ring_fill (by omega) (by omega)] at shows
      exact .inl ⟨rfl, splice_of_mark small byte shows⟩
    · rw [ring_fill behind (by omega), ring_fill (by omega) (by omega)] at shows
      exact .inr (.inl ⟨behind, fill, shows⟩)
  · rw [ring_fill (by omega) (by omega), ring_gap (by omega) (by omega)] at shows
    rcases fill_ends small byte shows with rfl | one
    · rw [splice_none] at shows
      exact .inr (.inr ⟨rfl, .inl ⟨rfl, shows⟩⟩)
    · exact .inr (.inr ⟨rfl, .inr one⟩)
  · exfalso
    by_cases last : q + 1 = 6001 + gap
    · rw [ring_gap behind within, last, ring_closes] at shows
      exact splice_to_mark small shows
    · rw [ring_gap behind within, ring_gap (by omega) (by omega), splice_zeros small] at shows
      cases shows

theorem turns (candidate : Candidate track byte gap m q shift)
    (soon : m ≤ track.offset % (16 * (6001 + gap)) + 32) :
    m = track.offset % (16 * (6001 + gap)) + (16 * (q + 1) + 2 * shift) ∨
      m + 16 * (6001 + gap) = track.offset % (16 * (6001 + gap)) + (16 * (q + 1) + 2 * shift) := by
  have place := candidate.place
  have late := candidate.late
  have within := candidate.within
  have small := candidate.small
  have start := Nat.mod_lt track.offset (show 0 < 16 * (6001 + gap) by omega)
  rw [← Nat.mod_add_mod] at place
  exact this_turn_or_next place (by omega) (by omega)

theorem fill_accepted (candidate : Candidate track byte gap m q shift)
    (ringed : Ringed track byte gap) (soon : m ≤ track.offset % (16 * (6001 + gap)) + 32)
    (early : 16 * (q + 1) + 2 * shift ≤ reach byte shift) :
    ∃ stop, protec.look.Takes (turn track) Cursor.defaultRevolutions m
      (.accept ((track.offset + (16 * q + 2 * shift)) % (16 * (6001 + gap)),
        [splice shift byte byte])) stop := by
  have long := ringed.long
  have start := Nat.mod_lt track.offset (show 0 < 16 * (6001 + gap) by omega)
  have turns : Cursor.defaultRevolutions = 3 := rfl
  have bounds := reach_bounds byte shift
  refine candidate.accepts ringed (by omega) (by rw [turns]; omega) ?_
  intro k inside
  rw [within_reach] at early
  by_cases last : q + k + 2 ≤ 6000
  · rw [ring_fill (by omega) (by omega), ring_fill (by omega) last]
  · obtain ⟨rfl, ends⟩ := early.resolve_left (by omega)
    rw [ring_fill (by omega) (by omega), ring_gap (by omega) (by omega), ends]

theorem mark_accepted (candidate : Candidate track byte gap m 0 0) (ringed : Ringed track byte gap)
    (soon : m ≤ track.offset % (16 * (6001 + gap)) + 32) :
    ∃ stop, protec.look.Takes (turn track) Cursor.defaultRevolutions m
      (.accept (track.offset % (16 * (6001 + gap)), [byte])) stop := by
  have bounds := reach_bounds byte 0
  obtain ⟨stop, takes⟩ := candidate.fill_accepted ringed soon (by omega)
  rw [splice_none] at takes
  exact ⟨stop, takes⟩

theorem fill_rejected (candidate : Candidate track byte gap m q shift)
    (ringed : Ringed track byte gap) (soon : m ≤ track.offset % (16 * (6001 + gap)) + 32)
    (shows : splice shift byte byte = 0xae) (inside : q < 6000)
    (late : reach byte shift < 16 * (q + 1) + 2 * shift) :
    ∃ why stop, protec.look.Takes (turn track) Cursor.defaultRevolutions m (.reject why) stop ∧
      stop ≤ m + 16 * (6001 - q) := by
  have long := ringed.long
  have start := Nat.mod_lt track.offset (show 0 < 16 * (6001 + gap) by omega)
  have turns : Cursor.defaultRevolutions = 3 := rfl
  have bounds := reach_bounds byte shift
  by_cases far : 5001 ≤ q
  · obtain ⟨k, rfl⟩ : ∃ k, q = 5999 - k := ⟨5999 - q, by omega⟩
    have differs : splice shift (ringAt byte gap (5999 - k + k + 2))
        (ringAt byte gap (5999 - k + k + 3)) ≠
          splice shift (ringAt byte gap (5999 - k + 1)) (ringAt byte gap (5999 - k + 2)) := by
      rw [ring_gap (by omega) (by omega), ring_gap (by omega) (by omega),
        splice_zeros candidate.small, ring_fill (by omega) (by omega)]
      by_cases last : k = 0
      · rw [ring_gap (by omega) (by omega)]
        exact (fill_breaks candidate.small byte shows).symm
      · rw [ring_fill (by omega) (by omega), shows]
        decide
    obtain ⟨why, stop, takes, bound⟩ := candidate.rejects ringed (by omega) (by omega)
      (by rw [turns]; omega) differs
    exact ⟨why, stop, takes, by omega⟩
  · obtain rfl : q = 5000 := by omega
    have ends : splice shift byte 0 ≠ splice shift byte byte := fun same =>
      absurd (within_reach.mpr (.inr ⟨rfl, same⟩)) (Nat.not_le_of_lt late)
    have differs : splice shift (ringAt byte gap (5000 + 998 + 2)) (ringAt byte gap (5000 + 998 + 3)) ≠
        splice shift (ringAt byte gap (5000 + 1)) (ringAt byte gap (5000 + 2)) := by
      rw [ring_fill (by omega) (by omega), ring_gap (by omega) (by omega),
        ring_fill (by omega) (by omega), ring_fill (by omega) (by omega)]
      exact ends
    obtain ⟨why, stop, takes, bound⟩ := candidate.rejects ringed (k := 998) (by omega) (by omega)
      (by rw [turns]; omega) differs
    exact ⟨why, stop, takes, by omega⟩

theorem gap_rejected (candidate : Candidate track byte gap m 6000 shift)
    (ringed : Ringed track byte gap) (soon : m ≤ track.offset % (16 * (6001 + gap)) + 32) :
    ∃ why stop, protec.look.Takes (turn track) Cursor.defaultRevolutions m (.reject why) stop ∧
      stop + 16 * shift ≤ m + 16 * (gap + 1) := by
  have long := ringed.long
  have short := ringed.short
  have start := Nat.mod_lt track.offset (show 0 < 16 * (6001 + gap) by omega)
  have turns : Cursor.defaultRevolutions = 3 := rfl
  obtain ⟨less, rfl⟩ : ∃ less, gap = less + 2 := ⟨gap - 2, by omega⟩
  have closes : ringAt byte (less + 2) (6000 + (less + 1) + 2) = 0xae := by
    have last : 6000 + (less + 1) + 2 = 6001 + (less + 2) := by omega
    rw [last, ring_closes]
  rcases candidate.kinds ringed with ⟨zero, -⟩ | ⟨-, inside, -⟩ | ⟨-, ⟨rfl, same⟩ | rfl⟩
  · cases zero
  · exact absurd inside (Nat.lt_irrefl _)
  · have differs : splice 0 (ringAt byte (less + 2) (6000 + (less + 1) + 2))
        (ringAt byte (less + 2) (6000 + (less + 1) + 3)) ≠
          splice 0 (ringAt byte (less + 2) (6000 + 1)) (ringAt byte (less + 2) (6000 + 2)) := by
      rw [splice_none, splice_none, closes, ring_gap (by omega) (by omega)]
      decide
    exact candidate.rejects ringed (by omega) (by omega) (by rw [turns]; omega) differs
  · have differs : splice 1 (ringAt byte (less + 2) (6000 + less + 2))
        (ringAt byte (less + 2) (6000 + less + 3)) ≠
          splice 1 (ringAt byte (less + 2) (6000 + 1)) (ringAt byte (less + 2) (6000 + 2)) := by
      have last : 6000 + less + 3 = 6000 + (less + 1) + 2 := by omega
      rw [last, closes, ring_gap (by omega) (by omega), ring_gap (by omega) (by omega),
        ring_gap (by omega) (by omega), splice_zeros (by decide)]
      decide
    obtain ⟨why, stop, takes, bound⟩ := candidate.rejects ringed (by omega) (by omega)
      (by rw [turns]; omega) differs
    exact ⟨why, stop, takes, by omega⟩

end Candidate

section
variable {track : Track} {byte : UInt8} {gap m q shift : Nat}

theorem candidate_at (late : 15 ≤ m) (within : q < 6001 + gap) (small : shift < 8)
    (shows : splice shift (ringAt byte gap q) (ringAt byte gap (q + 1)) = 0xae)
    (place : m = track.offset % (16 * (6001 + gap)) + (16 * (q + 1) + 2 * shift) ∨
      m + 16 * (6001 + gap) = track.offset % (16 * (6001 + gap)) + (16 * (q + 1) + 2 * shift)) :
    Candidate track byte gap m q shift := by
  refine ⟨late, within, small, ?_, shows⟩
  rcases place with this | next
  · rw [this, Nat.mod_add_mod]
  · rw [← Nat.add_mod_right m, next, Nat.mod_add_mod]

theorem settled_at {goal : Nat} {wanted : Nat × List UInt8 → Prop}
    (ringed : Ringed track byte gap) (start : Track)
    (last : Candidate track byte gap goal q shift)
    (soon : goal ≤ track.offset % (16 * (6001 + gap)) + 32)
    (each : ∀ m q shift, m ≤ goal → Candidate track byte gap m q shift → ∃ finding stop,
      protec.look.Takes (turn track) Cursor.defaultRevolutions m finding stop ∧
        finding.Settles wanted goal stop) :
    ∃ value, wanted value ∧
      protec.codec.outcome start (turn track) = .ok (protec.found start value.1 value.2) := by
  have late := last.late
  have long := ringed.long
  have offset := Nat.mod_lt track.offset (show 0 < 16 * (6001 + gap) by omega)
  have turns : Cursor.defaultRevolutions = 3 := rfl
  refine outcome_settled marked (by omega) (ringed.candidate_seen last) ?_ ?_
  · rw [Emission.to_revolution_length, ringed.placed.1, turns]
    omega
  · intro m _ upTo seen
    obtain ⟨q, shift, candidate⟩ := ringed.seen_candidate seen
    exact each m q shift upTo candidate

-- The mark starts on the last cell of the turn, and its second cell is the first one read.
theorem captured_at_pulse (ringed : Ringed track byte gap) (start : Track)
    (place : track.offset % (16 * (6001 + gap)) + 1 = 16 * (6001 + gap)) :
    protec.codec.outcome start (turn track) =
      .ok (protec.found start (track.offset % (16 * (6001 + gap))) [byte]) := by
  have mark : splice 0 (ringAt byte gap 0) (ringAt byte gap 1) = 0xae := by
    rw [splice_none, ring_mark]
  have last : Candidate track byte gap 15 0 0 :=
    candidate_at (by omega) (by omega) (by omega) mark (by omega)
  have settled : ∃ value, value = (track.offset % (16 * (6001 + gap)), [byte]) ∧
      protec.codec.outcome start (turn track) = .ok (protec.found start value.1 value.2) := by
    refine settled_at ringed start last (by omega) ?_
    intro m q shift upTo candidate
    have late := candidate.late
    have turns := candidate.turns (by omega)
    obtain rfl : q = 0 := by omega
    obtain rfl : shift = 0 := by omega
    obtain ⟨stop, takes⟩ := candidate.mark_accepted ringed (by omega)
    exact ⟨_, stop, takes, rfl⟩
  obtain ⟨value, rfl, outcome⟩ := settled
  exact outcome

theorem captured_at_mark (ringed : Ringed track byte gap) (start : Track) (other : byte ≠ 0xae)
    (unmarked : byte >>> 2 = 0x2e →
      track.offset % (16 * (6001 + gap)) + 28 < 16 * (6001 + gap) + 15)
    (unturned : ∀ shift, shift < 8 → splice shift byte byte = 0xae →
      track.offset % (16 * (6001 + gap)) + reach byte shift < 16 * (6001 + gap) + 15) :
    protec.codec.outcome start (turn track) =
      .ok (protec.found start (track.offset % (16 * (6001 + gap))) [byte]) := by
  have mark : splice 0 (ringAt byte gap 0) (ringAt byte gap 1) = 0xae := by
    rw [splice_none, ring_mark]
  have long := ringed.long
  have last : Candidate track byte gap (track.offset % (16 * (6001 + gap)) + 16) 0 0 :=
    candidate_at (by omega) (by omega) (by omega) mark (by omega)
  have settled : ∃ value, value = (track.offset % (16 * (6001 + gap)), [byte]) ∧
      protec.codec.outcome start (turn track) = .ok (protec.found start value.1 value.2) := by
    refine settled_at ringed start last (by omega) ?_
    intro m q shift upTo candidate
    have late := candidate.late
    have narrow := candidate.small
    have turns := candidate.turns (by omega)
    rcases candidate.kinds ringed with ⟨rfl, rfl | ⟨rfl, completes⟩⟩ | ⟨behind, inside, shows⟩ |
      ⟨rfl, ⟨-, same⟩ | rfl⟩
    · obtain ⟨stop, takes⟩ := candidate.mark_accepted ringed (by omega)
      exact ⟨_, stop, takes, rfl⟩
    · have apart := unmarked completes
      omega
    · have apart := unturned shift candidate.small shows
      have bounds := reach_bounds byte shift
      obtain ⟨why, stop, takes, bound⟩ :=
        candidate.fill_rejected ringed (by omega) shows inside (by omega)
      refine ⟨_, stop, takes, ?_⟩
      change stop < _
      omega
    · exact absurd same other
    · obtain ⟨why, stop, takes, bound⟩ := candidate.gap_rejected ringed (by omega)
      refine ⟨_, stop, takes, ?_⟩
      change stop < _
      omega
  obtain ⟨value, rfl, outcome⟩ := settled
  exact outcome

theorem captured_turned (ringed : Ringed track byte gap) (start : Track) (small : shift < 8)
    (shows : splice shift byte byte = 0xae)
    (before : 16 * (6001 + gap) + 15 ≤ track.offset % (16 * (6001 + gap)) + reach byte shift)
    (inside : track.offset % (16 * (6001 + gap)) + 1 < 16 * (6001 + gap)) :
    ∃ offset, protec.codec.outcome start (turn track) = .ok (protec.found start offset [0xae]) := by
  have long := ringed.long
  have bounds := reach_bounds byte shift
  obtain ⟨q, ends⟩ : ∃ q, reach byte shift = 16 * (q + 1) + 2 * shift := by
    unfold reach
    split
    · exact ⟨5000, rfl⟩
    · exact ⟨4999, rfl⟩
  have fill : splice shift (ringAt byte gap q) (ringAt byte gap (q + 1)) = 0xae := by
    rw [ring_fill (by omega) (by omega), ring_fill (by omega) (by omega), shows]
  have last : Candidate track byte gap
      (track.offset % (16 * (6001 + gap)) + reach byte shift - 16 * (6001 + gap)) q shift :=
    candidate_at (by omega) (by omega) small fill (by omega)
  have settled : ∃ value : Nat × List UInt8, value.2 = [0xae] ∧
      protec.codec.outcome start (turn track) = .ok (protec.found start value.1 value.2) := by
    refine settled_at ringed start last (by omega) ?_
    intro m k other upTo candidate
    have late := candidate.late
    have narrow := candidate.small
    have turns := candidate.turns (by omega)
    rcases candidate.kinds ringed with ⟨rfl, rfl | ⟨rfl, completes⟩⟩ | ⟨-, -, also⟩ |
      ⟨rfl, -⟩
    · omega
    · have bounds := reach_bounds byte 6
      obtain ⟨stop, takes⟩ := candidate.fill_accepted ringed (by omega) (by omega)
      rw [completes_turned small byte shows completes] at takes
      exact ⟨_, stop, takes, rfl⟩
    · obtain rfl := turned_once small candidate.small byte shows also
      obtain ⟨stop, takes⟩ := candidate.fill_accepted ringed (by omega) (by omega)
      rw [also] at takes
      exact ⟨_, stop, takes, rfl⟩
    · omega
  obtain ⟨value, data, outcome⟩ := settled
  exact ⟨value.1, by rw [outcome, data]⟩

theorem captured_own (ringed : Ringed track 0xae gap) (start : Track) :
    ∃ offset, protec.codec.outcome start (turn track) = .ok (protec.found start offset [0xae]) := by
  have long := ringed.long
  have fill : splice 0 (ringAt 0xae gap 1) (ringAt 0xae gap 2) = 0xae := by
    rw [splice_none, ring_fill (by omega) (by omega)]
  have last : Candidate track 0xae gap (track.offset % (16 * (6001 + gap)) + 32) 1 0 :=
    candidate_at (by omega) (by omega) (by omega) fill (by omega)
  have settled : ∃ value : Nat × List UInt8, value.2 = [0xae] ∧
      protec.codec.outcome start (turn track) = .ok (protec.found start value.1 value.2) := by
    refine settled_at ringed start last (by omega) ?_
    intro m q shift upTo candidate
    have late := candidate.late
    have narrow := candidate.small
    have turns := candidate.turns (by omega)
    have bounds := reach_bounds 0xae shift
    rcases candidate.kinds ringed with ⟨rfl, rfl | ⟨rfl, completes⟩⟩ | ⟨behind, inside, shows⟩ |
      ⟨rfl, -⟩
    · obtain ⟨stop, takes⟩ := candidate.mark_accepted ringed upTo
      exact ⟨_, stop, takes, rfl⟩
    · cases completes
    · by_cases early : 16 * (q + 1) + 2 * shift ≤ reach 0xae shift
      · obtain ⟨stop, takes⟩ := candidate.fill_accepted ringed upTo early
        rw [shows] at takes
        exact ⟨_, stop, takes, rfl⟩
      · obtain ⟨why, stop, takes, bound⟩ :=
          candidate.fill_rejected ringed upTo shows inside (by omega)
        refine ⟨_, stop, takes, ?_⟩
        change stop < _
        omega
    · obtain ⟨why, stop, takes, bound⟩ := candidate.gap_rejected ringed upTo
      refine ⟨_, stop, takes, ?_⟩
      change stop < _
      omega
  obtain ⟨value, data, outcome⟩ := settled
  exact ⟨value.1, by rw [outcome, data]⟩

theorem captured_marked (ringed : Ringed track byte gap) (start : Track)
    (completes : splice 6 0xae byte = 0xae)
    (before : 16 * (6001 + gap) + 15 ≤ track.offset % (16 * (6001 + gap)) + 28)
    (inside : track.offset % (16 * (6001 + gap)) + 1 < 16 * (6001 + gap)) :
    ∃ offset, protec.codec.outcome start (turn track) =
      .ok (protec.found start offset [splice 6 byte byte]) := by
  have long := ringed.long
  have mark : splice 6 (ringAt byte gap 0) (ringAt byte gap 1) = 0xae := by
    rw [ring_mark, ring_fill (by omega) (by omega), completes]
  have last : Candidate track byte gap
      (track.offset % (16 * (6001 + gap)) + 28 - 16 * (6001 + gap)) 0 6 :=
    candidate_at (by omega) (by omega) (by omega) mark (by omega)
  have settled : ∃ value : Nat × List UInt8, value.2 = [splice 6 byte byte] ∧
      protec.codec.outcome start (turn track) = .ok (protec.found start value.1 value.2) := by
    refine settled_at ringed start last (by omega) ?_
    intro m q shift upTo candidate
    have late := candidate.late
    have narrow := candidate.small
    have turns := candidate.turns (by omega)
    have bounds := reach_bounds byte shift
    rcases candidate.kinds ringed with ⟨rfl, rfl | ⟨rfl, -⟩⟩ | ⟨behind, -, -⟩ | ⟨rfl, -⟩
    · omega
    · obtain ⟨stop, takes⟩ := candidate.fill_accepted ringed (by omega) (by omega)
      exact ⟨_, stop, takes, rfl⟩
    · omega
    · omega
  obtain ⟨value, data, outcome⟩ := settled
  exact ⟨value.1, by rw [outcome, data]⟩

end

-- A fill byte that is captured as another one if the track starts at `first` or later, but not with the
-- last cell of the turn.
structure Mistake where
  byte : UInt8
  first : Nat
  other : UInt8
deriving DecidableEq

def mistakes : List Mistake :=
  [⟨0x57, 29997, 0xae⟩, ⟨0xab, 30011, 0xae⟩, ⟨0xd5, 30009, 0xae⟩, ⟨0xea, 30007, 0xae⟩,
    ⟨0x75, 30005, 0xae⟩, ⟨0xba, 30003, 0xae⟩, ⟨0x5d, 30001, 0xae⟩, ⟨0xb8, 109987, 0x2e⟩,
    ⟨0xb9, 109987, 0x6e⟩, ⟨0xbb, 109987, 0xee⟩]

-- The byte that a track with the given fill and offset is captured with again.
def recaptured (byte : UInt8) (offset : Nat) : UInt8 :=
  match mistakes.find? (·.byte = byte) with
  | some mistake =>
    if mistake.first ≤ offset ∧ offset + 1 < 110000 then mistake.other else byte
  | none => byte

theorem mistake_kinds : ∀ mistake ∈ mistakes,
    mistake.byte ≠ 0xae ∧ mistake.first ≤ 109987 ∧
      ((mistake.other = 0xae ∧ ∃ shift, shift < 8 ∧
          splice shift mistake.byte mistake.byte = 0xae ∧
          mistake.first + reach mistake.byte shift = 110015) ∨
        (mistake.first = 109987 ∧ splice 6 0xae mistake.byte = 0xae ∧
          mistake.other = splice 6 mistake.byte mistake.byte ∧
          ∀ shift, shift < 8 → splice shift mistake.byte mistake.byte ≠ 0xae)) := by
  decide +kernel

theorem no_mistake (byte : UInt8) (unlisted : ∀ mistake ∈ mistakes, mistake.byte ≠ byte) :
    byte = 0xae ∨
      byte >>> 2 ≠ 0x2e ∧ ∀ shift, shift < 8 → splice shift byte byte ≠ 0xae := by
  refine byte_forall (p := fun byte => (∀ mistake ∈ mistakes, mistake.byte ≠ byte) → byte = 0xae ∨
    byte >>> 2 ≠ 0x2e ∧ ∀ shift, shift < 8 → splice shift byte byte ≠ 0xae) ?_ byte unlisted
  decide +kernel

section
variable {track : Track} {byte : UInt8}

theorem early_captured {mistake : Mistake} (listed : mistake ∈ mistakes)
    (ringed : Ringed track mistake.byte 874) (start : Track)
    (early : track.offset % 110000 < mistake.first) :
    protec.codec.outcome start (turn track) =
      .ok (protec.found start (track.offset % 110000) [mistake.byte]) := by
  have length : 16 * (6001 + 874) = 110000 := rfl
  obtain ⟨other, soon, kinds⟩ := mistake_kinds mistake listed
  refine captured_at_mark ringed start other (fun _ => by rw [length]; omega) ?_
  intro shift small shows
  rw [length]
  rcases kinds with ⟨-, turned, less, also, ends⟩ | ⟨-, -, -, unturned⟩
  · obtain rfl := turned_once small less mistake.byte shows also
    omega
  · exact absurd shows (unturned shift small)

theorem late_captured {mistake : Mistake} (listed : mistake ∈ mistakes)
    (ringed : Ringed track mistake.byte 874) (start : Track)
    (late : mistake.first ≤ track.offset % 110000) (inside : track.offset % 110000 + 1 < 110000) :
    ∃ offset, protec.codec.outcome start (turn track) =
      .ok (protec.found start offset [mistake.other]) := by
  have length : 16 * (6001 + 874) = 110000 := rfl
  obtain ⟨-, -, ⟨other, shift, small, shows, ends⟩ | ⟨first, completes, other, -⟩⟩ :=
    mistake_kinds mistake listed
  · rw [other]
    exact captured_turned ringed start small shows (by rw [length]; omega) (by rw [length]; exact inside)
  · rw [other]
    exact captured_marked ringed start completes (by rw [length]; omega) (by rw [length]; exact inside)

theorem mistake_differs {mistake : Mistake} (listed : mistake ∈ mistakes) :
    mistake.other ≠ mistake.byte := by
  revert mistake
  decide

theorem captured_in_place (ringed : Ringed track byte 874) (start : Track) (other : byte ≠ 0xae)
    (same : recaptured byte (track.offset % 110000) = byte) :
    protec.codec.outcome start (turn track) =
      .ok (protec.found start (track.offset % 110000) [byte]) := by
  unfold recaptured at same
  cases found : mistakes.find? (·.byte = byte) with
  | none =>
    have unlisted : ∀ mistake ∈ mistakes, mistake.byte ≠ byte := fun mistake listed shown =>
      List.find?_eq_none.mp found mistake listed (decide_eq_true shown)
    obtain ⟨unmarked, unturned⟩ := (no_mistake byte unlisted).resolve_left other
    exact captured_at_mark ringed start other (fun completes => absurd completes unmarked)
      fun shift small shows => absurd shows (unturned shift small)
  | some mistake =>
    have listed := List.mem_of_find?_eq_some found
    obtain rfl : mistake.byte = byte := by simpa using List.find?_some found
    rw [found] at same
    dsimp only at same
    by_cases early : track.offset % 110000 < mistake.first
    · exact early_captured listed ringed start early
    · have last : ¬ track.offset % 110000 + 1 < 110000 := by
        intro inside
        rw [if_pos ⟨Nat.le_of_not_lt early, inside⟩] at same
        exact mistake_differs listed same
      have inside : track.offset % 110000 < 110000 := Nat.mod_lt _ (by decide)
      have length : 16 * (6001 + 874) = 110000 := rfl
      exact captured_at_pulse ringed start (by rw [length]; omega)

theorem regenerated_captured (ringed : Ringed track byte 874) (start : Track) :
    ∃ offset, protec.codec.outcome start (turn track) =
      .ok (protec.found start offset [recaptured byte (track.offset % 110000)]) := by
  by_cases same : recaptured byte (track.offset % 110000) = byte
  · rw [same]
    by_cases own : byte = 0xae
    · subst own
      exact captured_own ringed start
    · exact ⟨_, captured_in_place ringed start own same⟩
  · unfold recaptured at same ⊢
    cases found : mistakes.find? (·.byte = byte) with
    | none =>
      rw [found] at same
      exact absurd rfl same
    | some mistake =>
      have listed := List.mem_of_find?_eq_some found
      obtain rfl : mistake.byte = byte := by simpa using List.find?_some found
      rw [found] at same
      dsimp only at same ⊢
      by_cases masked : mistake.first ≤ track.offset % 110000 ∧ track.offset % 110000 + 1 < 110000
      · rw [if_pos masked]
        exact late_captured listed ringed start masked.1 masked.2
      · rw [if_neg masked] at same
        exact absurd rfl same

end

-- For every track that is taken for PROTEC, and whatever it was taken from.
theorem capture_recaptured (start track : Track) (source : Revolution)
    (captured : protec.codec.outcome start source = .ok track) :
    ∃ byte, track.data = [byte] ∧ track.total = 110000 ∧
      ∀ again : Track, ∃ offset,
        protec.codec.outcome again (protec.codec.emit track).toRevolution =
          .ok { again with
            offset, total := 110000, size := 1,
            data := [recaptured byte (track.offset % 110000)] } := by
  obtain ⟨place, byte, -, rfl⟩ := outcome_reports marked captured
  have ringed : Ringed (protec.found start place (protec.dataOf byte)) byte 874 :=
    ⟨rfl, rfl, by decide, by decide⟩
  exact ⟨byte, rfl, rfl, regenerated_captured ringed⟩

def written (total offset : Nat) (byte : UInt8) : Track :=
  { Track.new .protec .none with offset, total, size := 1, data := [byte] }

theorem written_ringed (gap offset : Nat) (byte : UInt8) (long : 699 ≤ gap) (short : gap < 1000) :
    Ringed (written (16 * (6001 + gap)) offset byte) byte gap :=
  ⟨rfl, rfl, long, short⟩

-- The last place at which one byte is kept, and the first at which another one is not.
theorem pulse_recaptured :
    protec.codec.outcome (.new .protec .none) (turn (written 110000 30002 0xba)) =
      .ok (written 110000 30002 0xba) ∧
    (∃ offset, protec.codec.outcome (.new .protec .none) (turn (written 110000 30002 0xba)) =
      .ok (written 110000 offset 0xba)) ∧
    protec.codec.outcome (.new .protec .none) (turn (written 110016 109987 0xb9)) =
      .ok (written 110000 109987 0xb9) ∧
    ∃ offset, protec.codec.outcome (.new .protec .none) (turn (written 110000 109987 0xb9)) =
      .ok (written 110000 offset 0x6e) := by
  have kept : protec.codec.outcome (.new .protec .none) (turn (written 110000 30002 0xba)) =
      .ok (written 110000 30002 0xba) :=
    captured_at_mark (written_ringed 874 30002 0xba (by decide) (by decide)) _ (by decide)
      (by decide) (by decide +kernel)
  have longer : protec.codec.outcome (.new .protec .none) (turn (written 110016 109987 0xb9)) =
      .ok (written 110000 109987 0xb9) :=
    captured_at_mark (written_ringed 875 109987 0xb9 (by decide) (by decide)) _ (by decide)
      (by decide) (by decide +kernel)
  obtain ⟨byte, data, -, again⟩ := capture_recaptured _ _ _ kept
  obtain ⟨other, changed, -, later⟩ := capture_recaptured _ _ _ longer
  cases data
  cases changed
  exact ⟨kept, again (.new .protec .none), longer, later (.new .protec .none)⟩

-- Sixteen more cells in the gap keep the pulse behind the places where the fill shows the mark.
theorem byte_changes :
    protec.codec.outcome (.new .protec .none) (turn (written 110016 30003 0xba)) =
      .ok (written 110000 30003 0xba) ∧
    ∃ offset, protec.codec.outcome (.new .protec .none) (turn (written 110000 30003 0xba)) =
      .ok (written 110000 offset 0xae) := by
  constructor
  · exact captured_at_mark (written_ringed 875 30003 0xba (by decide) (by decide)) _ (by decide)
      (by decide) (by decide +kernel)
  · have turned : splice 6 0xba 0xba = 0xae := by decide
    exact captured_turned (written_ringed 874 30003 0xba (by decide) (by decide)) _ (by decide) turned
      (by decide +kernel) (by decide)

end FloppyTrack.LongTrack.Protec
