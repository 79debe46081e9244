import FloppyTrack.Proofs.Damage
import FloppyTrack.Proofs.RType.Crossing

set_option autoImplicit false

namespace FloppyTrack.RType

section
variable {q r : Revolution} {n i : Nat}

theorem unfit_A (hit : i < 47768) (flipped : Revolution.Flipped q r n 47768 i)
    (carried : ∃ data, blockA.Carries r n data) (data : List UInt8) : ¬ blockA.Carries q n data := by
  intro carries
  obtain ⟨marker, sum⟩ := some_carried_A.mp carried
  obtain ⟨sameMarker, sameSum⟩ := some_carried_A.mp ⟨data, carries⟩
  by_cases lead : i < 8
  · exact Revolution.flipped_part_ne flipped (show 0 + 8 ≤ 47768 by decide) (Nat.zero_le i)
      (by omega) (sameMarker.trans marker.symm)
  · have block := Revolution.flipped_part flipped (show 8 + 47760 ≤ 47768 by decide) (by omega)
    have place : n + 2 * 8 = n + 16 := by omega
    rw [place] at block
    rw [block, ← sum] at sameSum
    exact group_sum_flipped 2985 _ _ (by rw [Revolution.data_bits_length]; omega) (by omega) sameSum

theorem unfit_B (hit : i < 52456) (flipped : Revolution.Flipped q r n 52456 i)
    (carried : ∃ data, blockB.Carries r n data) (data : List UInt8) : ¬ blockB.Carries q n data := by
  intro carries
  obtain ⟨marker, even, odd⟩ := some_carried_B.mp carried
  obtain ⟨sameMarker, sameEven, sameOdd⟩ := some_carried_B.mp ⟨data, carries⟩
  have first : n + 2 * 8 = n + 16 := by omega
  have second : n + 2 * 52424 = n + 104848 := by omega
  have third : n + 2 * 52440 = n + 104880 := by omega
  have payload : 8 + 52416 ≤ 52456 := by decide
  have stored : 52440 + 16 ≤ 52456 := by decide
  by_cases lead : i < 8
  · exact Revolution.flipped_part_ne flipped (show 0 + 8 ≤ 52456 by decide) (Nat.zero_le i)
      (by omega) (sameMarker.trans marker.symm)
  by_cases early : i < 52424
  -- The payload has another sum, and what is stored for it is the same.
  · have block := Revolution.flipped_part flipped payload (by omega)
    have sum := Revolution.spared_part flipped stored (.inl (by omega))
    rw [first] at block
    rw [third] at sum
    rw [block, sum, odd] at sameOdd
    exact group_sum_flipped 3276 _ _ (by rw [Revolution.data_bits_length]; omega) (by omega)
      sameOdd.symm
  by_cases half : i < 52440
  · have changed := Revolution.flipped_part_ne flipped (show 52424 + 16 ≤ 52456 by decide)
      (by omega) (by omega)
    rw [second] at changed
    exact changed (sameEven.trans even.symm)
  · have changed := Revolution.flipped_part_ne flipped stored (by omega) (by omega)
    have block := Revolution.spared_part flipped payload (.inr (by omega))
    rw [third] at changed
    rw [first] at block
    rw [block, ← odd] at sameOdd
    exact changed (Bits.to_nat_injective _ _ (by simp) sameOdd)

end

namespace Variant

-- What the search on a damaged turn asks of a variant.
structure Guarded (v : Variant) : Prop where
  ends : ∀ (r : Revolution) (R n : Nat), 0 < r.length → mark.bits ≤ n →
    v.look.Ends r R n fun finding stop => v.Judges r R n finding ∧ v.Stops r n stop finding
  marker : ∀ data, (v.bits data).take 8 = Bits.ofNat 8 0
  long : 8 ≤ v.count
  unfit : ∀ (q r : Revolution) (n i : Nat), i < v.count → Revolution.Flipped q r n v.count i →
    (∃ data, v.Carries r n data) → ∀ data, ¬ v.Carries q n data

theorem guarded_A : variantA.Guarded where
  ends _ _ _ := ends_A
  marker _ := List.take_left' (Bits.of_nat_length 8 0)
  long := by decide
  unfit _ _ _ _ := unfit_A

theorem guarded_B : variantB.Guarded where
  ends _ _ _ := ends_B
  marker _ := List.take_left' (Bits.of_nat_length 8 0)
  long := by decide
  unfit _ _ _ _ := unfit_B

theorem Guarded.carried_marker {v : Variant} (guarded : v.Guarded) {r : Revolution} {n : Nat}
    {data : List UInt8} (carries : v.Carries r n data) : r.byteAt n = 0 := by
  have front := r.data_bits_part n (show 0 + 8 ≤ v.count by rw [Nat.zero_add]; exact guarded.long)
  rw [carries.bits, List.drop_zero, guarded.marker] at front
  exact marker_bits.mp front

-- The block ends before the index pulse, and a gap follows it that holds a clock behind a false mark.
structure Fits (v : Variant) (track : Track) (total offset i : Nat) : Prop where
  size : track.data.length = v.size
  before : offset + (16 + 2 * v.count) ≤ total
  gap : 16 + 2 * v.count + 6 ≤ total
  hit : i < v.count

def damaged (v : Variant) (track : Track) (total offset i : Nat) : Revolution :=
  (v.written track total offset).invert (· == offset + 16 + (2 * i + 1))

section
variable {v : Variant} {track : Track} {total offset i : Nat} (fits : v.Fits track total offset i)
include fits

omit fits in
@[simp] theorem damaged_length : (v.damaged track total offset i).length = total := by
  simp [damaged]

theorem damaged_replay (n : Nat) : (v.damaged track total offset i).replay n =
    ((v.written track total offset).replay n ^^ (n % total == offset + 16 + (2 * i + 1))) := by
  have nonempty : 0 < total := Nat.lt_of_lt_of_le (by omega) fits.gap
  rw [damaged, Revolution.invert_replay _ _ (by rwa [written_length]), written_length]

theorem damaged_spared {n : Nat} (aside : n % total ≠ offset + 16 + (2 * i + 1)) :
    (v.damaged track total offset i).replay n = (v.written track total offset).replay n := by
  rw [damaged_replay fits, beq_eq_false_iff_ne.mpr aside, Bool.xor_false]

theorem damaged_flipped : Revolution.Flipped (v.damaged track total offset i)
    (v.written track total offset) (offset + mark.bits) v.count i := by
  have bits : mark.bits = 16 := rfl
  have room := fits.before
  have hit := fits.hit
  refine Revolution.invert_flipped _ hit ?_ (by rw [written_length]; omega)
  rw [written_length, bits, Nat.add_assoc, Nat.mod_eq_of_lt (by omega)]

theorem damaged_unfit (guarded : v.Guarded) {m : Nat}
    (real : m % total = (offset + mark.bits) % total) (data : List UInt8) :
    ¬ v.Carries (v.damaged track total offset i) m data := by
  intro carries
  have own := v.own_carries track total offset fits.size (by have := fits.gap; omega)
  exact guarded.unfit _ _ _ i fits.hit (damaged_flipped fits) ⟨_, own⟩ data
    (carries.turned (by rw [damaged_length, real]))

theorem damaged_mark {m : Nat} (behind : mark.bits ≤ m)
    (real : m % total = (offset + mark.bits) % total) :
    mark.seenAt (v.damaged track total offset i) m = true := by
  have bits : mark.bits = 16 := rfl
  have room := fits.before
  have start : (m - mark.bits) % total = offset % total := by
    apply Nat.ModEq.add_right_cancel' mark.bits
    rw [Nat.ModEq, Nat.sub_add_cancel behind, real]
  have shown := v.mark_written track total offset (by omega)
  rw [← Nat.sub_add_cancel behind, Sync.seen_iff mark_proper,
    Revolution.stretch_congr _ _ offset _ (by rw [damaged_length, start]), ← shown]
  simp only [Revolution.stretch]
  refine List.map_congr_left fun j member => ?_
  have inside : j < mark.bits := List.mem_range.mp member
  exact damaged_spared fits (by rw [Nat.mod_eq_of_lt (by omega)]; omega)

-- Four clear cells make the mark, so it stands where it was written, or one of them was cleared.
theorem damaged_seen {m : Nat} (seen : mark.seenAt (v.damaged track total offset i) m = true) :
    m % total = (offset + mark.bits) % total ∨
      (v.written track total offset).replay (offset + 16 + (2 * i + 1)) = true ∧
        ∃ back, back < 4 ∧ (m - 5 + back) % total = offset + 16 + (2 * i + 1) := by
  have bits : mark.bits = 16 := rfl
  have behind := mark_behind seen
  have lays := v.lays track total offset
  obtain ⟨length, start⟩ := v.placed track total offset
  have room : mark.cells.length ≤ (v.encode track (Emission.start total offset)).total := by
    rw [length, Sync.cells_length]
    have := fits.gap
    omega
  rw [← Nat.sub_add_cancel behind, Sync.seen_iff mark_proper] at seen
  have clear : ∀ back, back < 4 →
      (v.damaged track total offset i).replay (m - 5 + back) = false := by
    intro back four
    have place : m - mark.bits + (11 + back) = m - 5 + back := by omega
    rw [← place]
    exact Revolution.stretch_cell seen (mark_gap.clear back four)
  by_cases set : ∃ back, back < 4 ∧ (v.written track total offset).replay (m - 5 + back) = true
  · obtain ⟨back, four, set⟩ := set
    have cleared := clear back four
    have struck : (m - 5 + back) % total = offset + 16 + (2 * i + 1) := by
      by_contra aside
      rw [damaged_spared fits aside, set] at cleared
      cases cleared
    have cell : (v.written track total offset).replay (offset + 16 + (2 * i + 1)) = true := by
      rw [← set, ← struck, Revolution.replay, Revolution.replay, written_length, Nat.mod_mod]
    exact .inr ⟨cell, back, four, struck⟩
  · have once := Emission.clear_once lays room mark_gap (m - 5) fun back four =>
      Bool.eq_false_iff.mpr fun cell => set ⟨back, four, cell⟩
    rw [length, start] at once
    have around : m - 5 + 5 = m := by omega
    have real := Nat.ModEq.add_right 5 once
    rw [Nat.ModEq, around] at real
    exact .inl real

theorem written_marker (guarded : v.Guarded) :
    (v.written track total offset).dataBits (offset + mark.bits) 8 = Bits.ofNat 8 0 := by
  have data := v.data_written track total offset 8 fits.size guarded.long
    (by have := fits.gap; have := guarded.long; omega)
  rw [data, guarded.marker]

-- The data cells of the marker are clear, so one that was set lies behind it.
theorem set_late (guarded : v.Guarded)
    (set : (v.written track total offset).replay (offset + 16 + (2 * i + 1)) = true) : 8 ≤ i := by
  by_contra early
  have clear : ∀ i, i < 8 → (Bits.ofNat 8 0)[i]? = some false := by decide
  have cell := Revolution.data_bits_cell (written_marker fits guarded)
    (clear i (Nat.lt_of_not_le early))
  have place : offset + mark.bits + 2 * i + 1 = offset + 16 + (2 * i + 1) := Nat.add_assoc ..
  rw [place, set] at cell
  cases cell

theorem real_marker (guarded : v.Guarded) (late : 8 ≤ i) {m : Nat}
    (real : m % total = (offset + mark.bits) % total) :
    (v.damaged track total offset i).byteAt m = 0 := by
  have spared := Revolution.spared_part (damaged_flipped fits) (show 0 + 8 ≤ v.count by
    have := guarded.long; omega) (.inr late)
  rw [← marker_bits, Revolution.data_bits_congr _ m (offset + mark.bits) 8
    (by rw [damaged_length, real])]
  exact spared.trans (written_marker fits guarded)

theorem gap_spared {j : Nat} (near : j < 6) :
    (v.damaged track total offset i).replay (offset + (16 + 2 * v.count + j)) =
      (v.written track total offset).replay (offset + (16 + 2 * v.count + j)) := by
  have before := fits.before
  have gap := fits.gap
  have hit := fits.hit
  refine damaged_spared fits ?_
  by_cases same : offset + (16 + 2 * v.count + j) < total
  · rw [Nat.mod_eq_of_lt same]
    omega
  · rw [Nat.mod_eq_sub_mod (by omega), Nat.mod_eq_of_lt (by omega)]
    omega

theorem gap_turned {m extra : Nat} (positive : 0 < m)
    (past : m % total = (offset + (16 + 2 * v.count + extra + 1)) % total) {j : Nat}
    (near : extra + j < 6) :
    (v.damaged track total offset i).replay (m - 1 + j) =
      (v.written track total offset).replay (offset + (16 + 2 * v.count + (extra + j))) := by
  rw [← gap_spared fits near, ← Nat.add_assoc (16 + 2 * v.count), ← Nat.add_assoc offset]
  refine Revolution.replay_congr _ _ _ ?_ j
  rw [damaged_length]
  apply Nat.ModEq.add_right_cancel' 1
  rw [Nat.ModEq, Nat.sub_add_cancel positive, past]
  rfl

-- The last cell of a mark is set, so over the gap it can only be a clock; the next clock is a data
-- cell of what is taken for the marker.
theorem false_marker {m extra : Nat} (near : extra < 4)
    (past : m % total = (offset + (16 + 2 * v.count + extra + 1)) % total)
    (seen : mark.seenAt (v.damaged track total offset i) m = true) :
    (v.damaged track total offset i).byteAt m ≠ 0 := by
  have bits : mark.bits = 16 := rfl
  have behind := mark_behind seen
  have positive : 0 < m := by omega
  have gap := fits.gap
  obtain ⟨length, start⟩ := v.placed track total offset
  have lays := v.lays track total offset
  have size : (v.encode track (Emission.start total offset)).size = 16 + 2 * v.count := by
    rw [Emission.lays_size lays, v.bits_length _ fits.size]
    rfl
  have last : (v.damaged track total offset i).replay (m - 1 + 0) = true := by
    rw [← Nat.sub_add_cancel behind, Sync.seen_iff mark_proper] at seen
    have place : m - mark.bits + 15 = m - 1 + 0 := by omega
    rw [← place]
    exact Revolution.stretch_cell seen (by decide)
  rcases Nat.even_or_odd' extra with ⟨j, rfl | rfl⟩
  · have clock := Emission.gap_clock lays j (by rw [size, length]; omega)
    rw [size, start] at clock
    have set := (gap_turned fits positive past (j := 2) (by omega)).trans clock
    have place : m - 1 + 2 = m + 2 * 0 + 1 := by omega
    rw [place] at set
    rw [Ne, ← marker_bits]
    intro zero
    have cell := Revolution.data_bits_cell zero (i := 0) rfl
    rw [set] at cell
    cases cell
  · have clear := Emission.gap_data lays j (by rw [size, length]; omega)
    rw [size, start] at clear
    have cell := gap_turned fits positive past (j := 0) (by omega)
    rw [last] at cell
    exact absurd (cell.trans clear) (by decide)

omit fits in
-- Behind the block of one turn and before the mark of the next.
def Safe (v : Variant) (total offset n : Nat) : Prop :=
  ∃ turn, total * turn + offset + 16 + 2 * v.count ≤ n + total ∧ n < total * turn + offset + 16

theorem safe_start : v.Safe total offset 0 :=
  ⟨0, by have := fits.before; omega, by omega⟩

-- The next candidate is the written mark, or a false one over the end of the block.
theorem safe_candidate {n m : Nat} (safe : v.Safe total offset n)
    (first : FirstAfter (mark.seenAt (v.damaged track total offset i)) n m) :
    ∃ turn, m = total * turn + offset + 16 ∨
      ∃ extra, extra < 4 ∧ m + total = total * turn + offset + (16 + 2 * v.count + extra + 1) := by
  have before := fits.before
  have gap := fits.gap
  have hit := fits.hit
  have behind : 16 ≤ m := mark_behind first.holds
  have ahead := first.ahead
  obtain ⟨turn, done, early⟩ := safe
  have real : (total * turn + offset + 16) % total = (offset + mark.bits) % total := by
    rw [Nat.add_assoc, Nat.mul_add_mod]
    rfl
  have upTo : m ≤ total * turn + offset + 16 :=
    first_after_least first early (damaged_mark fits (Nat.le_add_left _ _) real)
  refine ⟨turn, ?_⟩
  rcases damaged_seen fits first.holds with same | ⟨-, back, near, struck⟩
  · have start : (m - 16) % total = offset := by
      rw [← Nat.mod_eq_of_lt (show offset < total by omega)]
      apply Nat.ModEq.add_right_cancel' 16
      rw [Nat.ModEq, Nat.sub_add_cancel behind, same]
      rfl
    have split := Nat.div_add_mod (m - 16) total
    rw [start] at split
    have low : (m - 16) / total ≤ turn :=
      Nat.le_of_mul_le_mul_left (show total * _ ≤ total * turn by omega) (by omega)
    have high : turn < (m - 16) / total + 1 :=
      Nat.lt_of_mul_lt_mul_left (a := total) (by rw [Nat.mul_succ]; omega)
    have equal : (m - 16) / total = turn := by omega
    rw [equal] at split
    exact .inl (by omega)
  · have split := Nat.div_add_mod (m - 5 + back) total
    rw [struck] at split
    have low : (m - 5 + back) / total < turn :=
      Nat.lt_of_mul_lt_mul_left (a := total) (by omega)
    have high : turn < (m - 5 + back) / total + 2 :=
      Nat.lt_of_mul_lt_mul_left (a := total) (by rw [Nat.mul_add]; omega)
    have equal : turn = (m - 5 + back) / total + 1 := by omega
    rw [equal, Nat.mul_succ] at done upTo ⊢
    exact .inr ⟨5 + 2 * i - back - 2 * v.count, by omega, by omega⟩

theorem damaged_declines (guarded : v.Guarded) (late : 8 ≤ i) {n m : Nat}
    (safe : v.Safe total offset n)
    (first : FirstAfter (mark.seenAt (v.damaged track total offset i)) n m) :
    v.look.Ends (v.damaged track total offset i) 3 m fun finding stop =>
      finding.Declines v.format ∧ ∀ why, finding = .reject why → v.Safe total offset stop := by
  have before := fits.before
  have gap := fits.gap
  have behind := mark_behind first.holds
  obtain ⟨finding, stop, takes, judged, stops⟩ :=
    guarded.ends (v.damaged track total offset i) 3 m (by rw [damaged_length]; omega) behind
  obtain ⟨turn, real | ⟨extra, near, past⟩⟩ := safe_candidate fits safe first
  · have same : m % total = (offset + mark.bits) % total := by
      rw [real, Nat.add_assoc, Nat.mul_add_mod]
      rfl
    refine ⟨finding, stop, takes, ?_⟩
    cases finding with
    | accept value => exact absurd judged.1 (damaged_unfit fits guarded same _)
    | giveUp error => exact ⟨judged.1, fun _ other => by cases other⟩
    | reject why =>
      refine ⟨trivial, fun _ _ => ⟨turn + 1, ?_⟩⟩
      rw [Block.Stops, real_marker fits guarded late same, if_pos rfl] at stops
      rw [Nat.mul_succ]
      omega
  · have same : m % total = (offset + (16 + 2 * v.count + extra + 1)) % total := by
      rw [← Nat.add_mod_right, past, Nat.add_assoc, Nat.mul_add_mod]
    have wrong := false_marker fits near same first.holds
    refine ⟨finding, stop, takes, ?_⟩
    cases finding with
    | accept value => exact absurd (guarded.carried_marker judged.1) wrong
    | giveUp error => exact ⟨judged.1, fun _ other => by cases other⟩
    | reject why =>
      refine ⟨trivial, fun _ _ => ⟨turn, ?_⟩⟩
      rw [Block.Stops, if_neg wrong] at stops
      omega

-- A cell that was clear makes no other mark, since it breaks no run of clear cells it belongs to.
theorem search_damaged (guarded : v.Guarded) :
    ((scan v.format mark v.look).run
      (Cursor.start (v.damaged track total offset i) 3)).1.result = .error (.noMatch v.format) := by
  have gap := fits.gap
  have course := v.search_course (v.damaged track total offset i) 3
  by_cases set : (v.written track total offset).replay (offset + 16 + (2 * i + 1)) = true
  · have late := set_late fits guarded set
    exact course.declined (v.Safe total offset) (safe_start fits) fun _ _ safe first _ =>
      damaged_declines fits guarded late safe first
  · refine course.none_given fun m seen _ => ?_
    have real := (damaged_seen fits seen).resolve_right fun other => set other.1
    refine Reader.gives_imp (v.judges _ 3 m (by rw [damaged_length]; omega) (mark_behind seen)) ?_
    intro finding judged
    cases finding with
    | accept value => exact damaged_unfit fits guarded real _ judged.1
    | reject why => trivial
    | giveUp error => exact judged.1

end

end Variant

theorem flipped_cell_rejected (start track : Track) (k : Nat) :
    (track.data.length = 5968 → track.total = 100150 → track.offset ≤ 4598 → k < 47768 →
      codecA.outcome start ((codecA.emit track).toRevolution.invert
        (· == track.offset + 16 + (2 * k + 1))) = .error (.noMatch .rTypeA)) ∧
    (track.data.length = 6552 → track.total = 105500 → track.offset ≤ 572 → k < 52456 →
      codecB.outcome start ((codecB.emit track).toRevolution.invert
        (· == track.offset + 16 + (2 * k + 1))) = .error (.noMatch .rTypeB)) := by
  constructor
  · intro size total early hit
    have count : variantA.count = 47768 := rfl
    have fits : variantA.Fits track track.total track.offset k :=
      ⟨size, by omega, by omega, by omega⟩
    rw [outcome_A]
    exact congrArg (Functor.map _) (Variant.search_damaged fits Variant.guarded_A)
  · intro size total early hit
    have count : variantB.count = 52456 := rfl
    have fits : variantB.Fits track track.total track.offset k :=
      ⟨size, by omega, by omega, by omega⟩
    rw [outcome_B]
    exact congrArg (Functor.map _) (Variant.search_damaged fits Variant.guarded_B)

-- Without their last data bit, these blocks end with another mark, which the gap completes.
def hintA : Track :=
  { Track.unformatted with
    offset := 4598, total := 100150, data := List.replicate 5966 0 ++ [0x10, 0x05] }

def hintB : Track :=
  { Track.unformatted with
    offset := 572, total := 105500, data := List.replicate 6550 0 ++ [0x10, 0x05] }

theorem last_cell_rejected :
    codecA.outcome .unformatted ((codecA.emit hintA).toRevolution.invert
        (· == hintA.offset + 16 + (2 * 47767 + 1))) = .error (.noMatch .rTypeA) ∧
      codecB.outcome .unformatted ((codecB.emit hintB).toRevolution.invert
        (· == hintB.offset + 16 + (2 * 52455 + 1))) = .error (.noMatch .rTypeB) := by
  have sizeA : hintA.data.length = 5968 := by
    rw [hintA, List.length_append, List.length_replicate]
    rfl
  have sizeB : hintB.data.length = 6552 := by
    rw [hintB, List.length_append, List.length_replicate]
    rfl
  exact ⟨(flipped_cell_rejected .unformatted hintA 47767).1 sizeA rfl (by decide) (by decide),
    (flipped_cell_rejected .unformatted hintB 52455).2 sizeB rfl (by decide) (by decide)⟩

end FloppyTrack.RType
