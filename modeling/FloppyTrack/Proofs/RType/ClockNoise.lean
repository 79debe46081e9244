import FloppyTrack.Proofs.Damage
import FloppyTrack.Proofs.RType.RoundTrip

set_option autoImplicit false

namespace FloppyTrack.RType

namespace Variant

-- A turn that shows the mark where it was written, nothing else before it, and the data of the block
-- behind it.
structure Alike (v : Variant) (track : Track) (total offset : Nat) (q : Revolution) : Prop where
  length : q.length = total
  lead : ∀ n, n < offset + mark.bits → q.replay n = (v.written track total offset).replay n
  data : q.dataBits (offset + mark.bits) v.count =
    (v.written track total offset).dataBits (offset + mark.bits) v.count

section
variable {v : Variant} {track : Track} {total offset : Nat} {q : Revolution}

theorem alike_written (v : Variant) (track : Track) (total offset : Nat) :
    v.Alike track total offset (v.written track total offset) :=
  ⟨written_length .., fun _ _ => rfl, rfl⟩

theorem Alike.seen (alike : v.Alike track total offset q) {n : Nat} (early : n ≤ offset + mark.bits) :
    mark.seenAt q n = mark.seenAt (v.written track total offset) n := by
  by_cases unread : n < mark.bits
  · rw [Sync.not_seen_early mark_proper mark_leads n unread,
      Sync.not_seen_early mark_proper mark_leads n unread]
  · obtain ⟨k, rfl⟩ := Nat.exists_eq_add_of_le' (Nat.le_of_not_lt unread)
    have cells : q.stretch k mark.bits = (v.written track total offset).stretch k mark.bits := by
      refine List.map_congr_left fun i member => alike.lead _ ?_
      have inside : i < mark.bits := List.mem_range.mp member
      omega
    rw [Bool.eq_iff_iff, Sync.seen_iff mark_proper, Sync.seen_iff mark_proper, cells]

theorem Alike.first (alike : v.Alike track total offset q) (before : offset < total)
    (room : 16 ≤ total) : FirstAfter (mark.seenAt q) 0 (offset + mark.bits) := by
  have first := v.first_written track total offset room
  rw [Nat.mod_eq_of_lt before] at first
  refine ⟨first.ahead, ?_, fun k ahead early => ?_⟩
  · rw [alike.seen (Nat.le_refl _)]
    exact first.holds
  · rw [alike.seen (Nat.le_of_lt early)]
    exact first.skipped k ahead early

theorem search_alike {R : Nat} (turns : 0 < R) (alike : v.Alike track total offset q)
    (size : track.data.length = v.size) (before : offset + (16 + 2 * v.count) ≤ total) :
    ((scan v.format mark v.look).run (Cursor.start q R)).1.result = .ok (offset, track.data) := by
  have bits : mark.bits = 16 := rfl
  have length := alike.length
  have own := v.own_carries track total offset size (by omega)
  have carries : v.Carries q (offset + mark.bits) track.data := ⟨size, alike.data.trans own.bits⟩
  have turn : q.length ≤ R * q.length := Nat.le_mul_of_pos_left _ turns
  have search := v.search_first (R := R) (by omega) (alike.first (by omega) (by omega)) (by omega)
    carries
  rw [search, Nat.add_sub_cancel, Nat.mod_eq_of_lt (by omega)]

-- A clock stands at an even distance behind the mark, and a data cell at an odd one.
theorem alike_noisy {hit : Nat → Bool} (before : offset + (16 + 2 * v.count) ≤ total)
    (clocks : ∀ cell, hit cell = true → ∃ k, k < v.count ∧ cell = offset + 16 + 2 * k) :
    v.Alike track total offset ((v.written track total offset).invert hit) := by
  have bits : mark.bits = 16 := rfl
  have spared : ∀ n, n < total → hit n = false →
      ((v.written track total offset).invert hit).replay n =
        (v.written track total offset).replay n := by
    intro n inside aside
    rw [Revolution.invert_replay _ _ (by rw [written_length]; omega), written_length,
      Nat.mod_eq_of_lt inside, aside, Bool.xor_false]
  refine ⟨by simp, fun n early => ?_, List.map_congr_left fun i member => ?_⟩
  · refine spared n (by omega) (Bool.eq_false_iff.mpr fun struck => ?_)
    obtain ⟨k, -, place⟩ := clocks n struck
    omega
  · have inside : i < v.count := List.mem_range.mp member
    refine spared _ (by omega) (Bool.eq_false_iff.mpr fun struck => ?_)
    obtain ⟨k, -, place⟩ := clocks _ struck
    omega

-- The search comes to the same with the clocks inverted and without.
theorem search_noisy {R : Nat} {hit : Nat → Bool} (turns : 0 < R)
    (size : track.data.length = v.size) (before : offset + (16 + 2 * v.count) ≤ total)
    (clocks : ∀ cell, hit cell = true → ∃ k, k < v.count ∧ cell = offset + 16 + 2 * k) :
    ((scan v.format mark v.look).run
        (Cursor.start ((v.written track total offset).invert hit) R)).1.result =
      .ok (offset, track.data) ∧
    ((scan v.format mark v.look).run
        (Cursor.start (v.written track total offset) R)).1.result = .ok (offset, track.data) :=
  ⟨search_alike turns (alike_noisy before clocks) size before,
    search_alike turns (v.alike_written track total offset) size before⟩

end

end Variant

theorem clock_noise_harmless (start track : Track) (turns : Nat) (turned : 0 < turns)
    (hit : Nat → Bool) :
    (track.data.length = 5968 → track.total = 100150 → track.offset ≤ 4598 →
      (∀ cell, hit cell = true → ∃ k, k < 47768 ∧ cell = track.offset + 16 + 2 * k) →
      ((codecA.decode start).run
          (Cursor.start ((codecA.emit track).toRevolution.invert hit) turns)).1.result =
        ((codecA.decode start).run
          (Cursor.start (codecA.emit track).toRevolution turns)).1.result ∧
      ((codecA.decode start).run
          (Cursor.start ((codecA.emit track).toRevolution.invert hit) turns)).1.result =
        .ok { start with
          offset := track.offset, geometry := geometryA, size := 5968, goodSectors := 1,
          data := track.data }) ∧
    (track.data.length = 6552 → track.total = 105500 → track.offset ≤ 572 →
      (∀ cell, hit cell = true → ∃ k, k < 52456 ∧ cell = track.offset + 16 + 2 * k) →
      ((codecB.decode start).run
          (Cursor.start ((codecB.emit track).toRevolution.invert hit) turns)).1.result =
        ((codecB.decode start).run
          (Cursor.start (codecB.emit track).toRevolution turns)).1.result ∧
      ((codecB.decode start).run
          (Cursor.start ((codecB.emit track).toRevolution.invert hit) turns)).1.result =
        .ok { start with
          offset := track.offset, total := 105500, geometry := geometryB, size := 6552,
          goodSectors := 1, data := track.data }) := by
  constructor
  · intro size total early clocks
    have count : variantA.count = 47768 := rfl
    have before : track.offset + (16 + 2 * variantA.count) ≤ track.total := by omega
    obtain ⟨noisy, plain⟩ := Variant.search_noisy turned size before clocks
    have result := (decoded_A start (Cursor.start _ turns)).trans (congrArg (Functor.map _) noisy)
    exact ⟨result.trans ((decoded_A start _).trans (congrArg (Functor.map _) plain)).symm, result⟩
  · intro size total early clocks
    have count : variantB.count = 52456 := rfl
    have before : track.offset + (16 + 2 * variantB.count) ≤ track.total := by omega
    obtain ⟨noisy, plain⟩ := Variant.search_noisy turned size before clocks
    have result := (decoded_B start (Cursor.start _ turns)).trans (congrArg (Functor.map _) noisy)
    exact ⟨result.trans ((decoded_B start _).trans (congrArg (Functor.map _) plain)).symm, result⟩

-- A clock of this block is all that another mark in it lacks.
def nearMark : Track :=
  { Track.unformatted with
    offset := 4598, total := 100150, data := [0x2a, 0x02] ++ List.replicate 5966 0 }

def fullTurn : Track :=
  { Track.unformatted with offset := 572, total := 105500, data := List.replicate 6552 0x4e }

-- One clock that completes the other mark, and all clocks of a block that ends at the pulse.
theorem completed_mark_harmless :
    ((codecA.decode .unformatted).run
        (Cursor.start ((codecA.emit nearMark).toRevolution.invert (· == 4674)) 1)).1.result =
      .ok { Track.unformatted with
        offset := 4598, geometry := geometryA, size := 5968, goodSectors := 1,
        data := nearMark.data } ∧
    ((codecB.decode .unformatted).run
        (Cursor.start ((codecB.emit fullTurn).toRevolution.invert fun cell =>
          588 ≤ cell && cell < 105500 && cell % 2 == 0) 3)).1.result =
      .ok { Track.unformatted with
        offset := 572, total := 105500, geometry := geometryB, size := 6552, goodSectors := 1,
        data := fullTurn.data } := by
  have size : nearMark.data.length = 5968 := by
    rw [nearMark, List.length_append, List.length_replicate]
    rfl
  constructor
  · refine ((clock_noise_harmless .unformatted nearMark 1 (by decide) (· == 4674)).1 size rfl
      (by decide) fun cell struck => ?_).2
    exact ⟨30, by decide, eq_of_beq struck⟩
  · refine ((clock_noise_harmless .unformatted fullTurn 3 (by decide) _).2 List.length_replicate rfl
      (by decide) fun cell struck => ?_).2
    have offset : fullTurn.offset = 572 := rfl
    simp only [Bool.and_eq_true, decide_eq_true_eq, beq_iff_eq] at struck
    exact ⟨(cell - 588) / 2, by omega, by omega⟩

end FloppyTrack.RType
