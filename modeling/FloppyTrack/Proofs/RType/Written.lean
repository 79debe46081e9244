import FloppyTrack.Proofs.RType.Block

set_option autoImplicit false

namespace FloppyTrack

namespace RType

theorem Block.Carries.turned {b : Block} {r : Revolution} {j k : Nat} {data : List UInt8}
    (carries : b.Carries r j data) (same : j % r.length = k % r.length) : b.Carries r k data :=
  ⟨carries.size, (r.data_bits_congr j k b.count same).symm.trans carries.bits⟩

namespace Variant

def written (w : Variant) (track : Track) (total offset : Nat) : Revolution :=
  (w.encode track (Emission.start total offset)).toRevolution

variable (v w : Variant) (track : Track) (total offset : Nat)

@[simp] theorem written_length : (w.written track total offset).length = total := by
  rw [written, Emission.to_revolution_length, (w.placed track total offset).1]

theorem mark_written (room : 16 ≤ total) :
    (w.written track total offset).stretch offset mark.bits = mark.cells := by
  have lays := w.lays track total offset
  obtain ⟨length, start⟩ := w.placed track total offset
  have head := Emission.head_placed lays (by rw [length]; exact room)
  rwa [start, Sync.cells_length] at head

theorem seen_written (room : 16 ≤ total) (n : Nat) :
    mark.seenAt (w.written track total offset) n = true ↔
      mark.bits ≤ n ∧ (n - mark.bits) % total = offset % total := by
  have lays := w.lays track total offset
  obtain ⟨length, start⟩ := w.placed track total offset
  have fits : mark.cells.length ≤ (w.encode track (Emission.start total offset)).total := by
    rw [length]
    exact room
  by_cases behind : mark.bits ≤ n
  · have seen := Sync.seen_iff (r := w.written track total offset) mark_proper (n - mark.bits)
    rw [Nat.sub_add_cancel behind] at seen
    rw [seen]
    constructor
    · intro shown
      have once := Emission.head_once lays fits mark_gap (n - mark.bits) shown
      rw [length, start] at once
      exact ⟨behind, once⟩
    · rintro ⟨-, same⟩
      rw [Revolution.stretch_congr _ _ offset _ (by rw [written_length, same])]
      exact mark_written w track total offset room
  · rw [Sync.not_seen_early mark_proper mark_leads n (by omega)]
    simp [behind]

-- Whatever the payload, the first turn shows the mark at the offset and nowhere before it.
theorem first_written (room : 16 ≤ total) :
    FirstAfter (mark.seenAt (w.written track total offset)) 0 (offset % total + mark.bits) := by
  refine ⟨Nat.succ_pos _, ?_, ?_⟩
  · rw [seen_written w track total offset room, Nat.add_sub_cancel, Nat.mod_mod]
    exact ⟨Nat.le_add_left _ _, rfl⟩
  · intro k _ before
    rw [Bool.eq_false_iff]
    intro seen
    obtain ⟨behind, same⟩ := (seen_written w track total offset room k).mp seen
    have nonempty : 0 < total := by omega
    have small := Nat.mod_lt offset nonempty
    rw [Nat.mod_eq_of_lt (by omega)] at same
    omega

theorem data_written (n : Nat) (size : track.data.length = w.size) (within : n ≤ w.count)
    (room : 16 + 2 * n ≤ total) :
    (w.written track total offset).dataBits (offset + mark.bits) n = (w.bits track.data).take n := by
  have lays := w.lays track total offset
  obtain ⟨length, start⟩ := w.placed track total offset
  have data := Emission.data_placed lays n (by rw [length, Sync.cells_length]; exact room)
  rw [start, Sync.cells_length] at data
  have bits : n ≤ (w.bits track.data).length := by
    rw [w.bits_length track.data size]
    exact within
  rw [written, data, List.take_append_of_le_length bits]

theorem own_carries (size : track.data.length = w.size) (room : 16 + 2 * w.count ≤ total) :
    w.Carries (w.written track total offset) (offset + mark.bits) track.data := by
  refine ⟨size, ?_⟩
  rw [data_written w track total offset w.count size (Nat.le_refl _) room, List.take_of_length_le]
  exact Nat.le_of_eq (w.bits_length track.data size)

theorem search_course (r : Revolution) (R : Nat) :
    Scan.Course v.format mark v.look r R 0
      ((scan v.format mark v.look).run (Cursor.start r R)).1.result :=
  Scan.scan_course v.format mark v.look v.steady r R

-- Whatever else the turn holds, and however often it is replayed.
theorem search_found {r : Revolution} {R : Nat} {value : Nat × List UInt8}
    (found : ((scan v.format mark v.look).run (Cursor.start r R)).1.result = .ok value) :
    value.1 < r.length ∧ r.stretch value.1 mark.bits = mark.cells ∧
      v.Carries r (value.1 + mark.bits) value.2 := by
  have course := v.search_course r R
  rw [found] at course
  obtain ⟨m, stop, ahead, within, seen, takes⟩ := course.found_at
  have behind := mark_behind seen
  have nonempty : 0 < r.length := by
    refine Nat.pos_of_ne_zero ?_
    rintro empty
    rw [empty, Nat.mul_zero] at within
    omega
  obtain ⟨carries, place⟩ := Reader.gives_takes within (v.judges r R m nonempty behind) takes
  have turned : value.1 % r.length = (m - mark.bits) % r.length := by rw [place, Nat.mod_mod]
  have moved : (value.1 + mark.bits) % r.length = m % r.length := by
    rw [Nat.add_mod, turned, ← Nat.add_mod, Nat.sub_add_cancel behind]
  refine ⟨?_, ?_, carries.turned moved.symm⟩
  · rw [place]
    exact Nat.mod_lt _ nonempty
  · rw [r.stretch_congr _ _ _ turned, ← Sync.seen_iff mark_proper, Nat.sub_add_cancel behind]
    exact seen

-- The first mark decides the search if a block stands behind it.
theorem search_first {r : Revolution} {R n : Nat} {data : List UInt8} (nonempty : 0 < r.length)
    (first : FirstAfter (mark.seenAt r) 0 n) (room : n + 2 * v.count ≤ R * r.length)
    (carries : v.Carries r n data) :
    ((scan v.format mark v.look).run (Cursor.start r R)).1.result =
      .ok ((n - mark.bits) % r.length, data) := by
  have gives := v.judges r R n nonempty (mark_behind first.holds)
  obtain ⟨⟨place, found⟩, ⟨judged, at_mark⟩, result⟩ :=
    (v.search_course r R).first_given first (by omega) gives (by
      intro finding judged
      cases finding with
      | accept value => exact ⟨value, rfl⟩
      | reject why => exact absurd carries (judged data)
      | giveUp error =>
        have short := judged.2
        omega)
  rw [result, v.unique _ _ _ _ judged carries, at_mark]

theorem search_carried (data : List UInt8) (room : 16 ≤ total) (fits : 16 + 2 * v.count ≤ 2 * total)
    (carries : v.Carries (w.written track total offset) (offset + mark.bits) data) :
    ((scan v.format mark v.look).run (Cursor.start (w.written track total offset) 3)).1.result =
      .ok (offset % total, data) := by
  have nonempty : 0 < total := by omega
  have small := Nat.mod_lt offset nonempty
  have bits : mark.bits = 16 := rfl
  have length := w.written_length track total offset
  have here : v.Carries (w.written track total offset) (offset % total + mark.bits) data :=
    carries.turned (by rw [length, Nat.mod_add_mod])
  have search := v.search_first (R := 3) (by omega) (w.first_written track total offset room)
    (by omega) here
  rw [search, length, Nat.add_sub_cancel, Nat.mod_mod]

theorem search_own (size : track.data.length = w.size) (room : 16 + 2 * w.count ≤ total) :
    ((scan w.format mark w.look).run (Cursor.start (w.written track total offset) 3)).1.result =
      .ok (offset % total, track.data) :=
  w.search_carried w track total offset track.data (by omega) (by omega)
    (w.own_carries track total offset size room)

theorem search_foreign (room : 16 ≤ total)
    (foreign : ∀ data, ¬ v.Carries (w.written track total offset) (offset + mark.bits) data) :
    ((scan v.format mark v.look).run (Cursor.start (w.written track total offset) 3)).1.result =
      .error (.noMatch v.format) := by
  have length := w.written_length track total offset
  refine (v.search_course (w.written track total offset) 3).none_given ?_
  intro m seen _
  obtain ⟨behind, same⟩ := (w.seen_written track total offset room m).mp seen
  refine Reader.gives_imp (v.judges (w.written track total offset) 3 m (by omega) behind) ?_
  intro finding judged
  cases finding with
  | accept value =>
    refine foreign value.2 (judged.1.turned ?_)
    rw [length, ← Nat.mod_add_mod, ← same, Nat.mod_add_mod, Nat.sub_add_cancel behind]
  | reject why => trivial
  | giveUp error => exact judged.1

end Variant

end RType

end FloppyTrack
