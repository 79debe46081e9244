import FloppyTrack.Scan
import FloppyTrack.Proofs.Mark
import FloppyTrack.Proofs.Reading

set_option autoImplicit false

namespace FloppyTrack

structure FirstAfter (p : Nat → Bool) (n m : Nat) : Prop where
  ahead : n < m
  holds : p m = true
  skipped : ∀ k, n < k → k < m → p k = false

theorem first_after_exists (p : Nat → Bool) (n k : Nat) (ahead : n < k) (holds : p k = true) :
    ∃ m, m ≤ k ∧ FirstAfter p n m := by
  induction k using Nat.strongRecOn with
  | _ k ih =>
    by_cases earlier : ∃ j, n < j ∧ j < k ∧ p j = true
    · obtain ⟨j, after, before, found⟩ := earlier
      obtain ⟨m, bound, first⟩ := ih j before after found
      exact ⟨m, by omega, first⟩
    · refine ⟨k, Nat.le_refl k, ahead, holds, ?_⟩
      intro j after before
      cases found : p j with
      | false => rfl
      | true => exact absurd ⟨j, after, before, found⟩ earlier

theorem first_after_least {p : Nat → Bool} {n j k : Nat} (first : FirstAfter p n j) (ahead : n < k)
    (holds : p k = true) : j ≤ k := by
  by_cases past : k < j
  · have clear := first.skipped k ahead past
    rw [holds] at clear
    cases clear
  · exact Nat.le_of_not_lt past

theorem first_after_unique {p : Nat → Bool} {n j k : Nat} (one : FirstAfter p n j)
    (other : FirstAfter p n k) : j = k :=
  Nat.le_antisymm (first_after_least one other.ahead other.holds)
    (first_after_least other one.ahead one.holds)

namespace Cursor.Stands

variable {r : Revolution} {R : Nat} {stop : Cursor → Bool} {p : Nat → Bool}

theorem seek_hit {c : Cursor} {n : Nat} (agree : ∀ d m, d.Stands r R m → stop d = p m) (m : Nat)
    (stands : c.Stands r R n) (first : FirstAfter p n m) (within : m ≤ R * r.length) :
    (c.seek stop).1 = true ∧ (c.seek stop).2.Stands r R m := by
  have step := stands.next_more (Nat.lt_of_lt_of_le first.ahead within)
  rw [Cursor.seek]
  split <;> rename_i d read <;> rw [read] at step
  · cases step.1
  · have here := agree d (n + 1) step.2
    by_cases last : n + 1 = m
    · subst last
      rw [first.holds] at here
      rw [if_pos here]
      exact ⟨rfl, step.2⟩
    · have ahead : n + 1 < m := by have := first.ahead; omega
      rw [first.skipped (n + 1) (by omega) ahead] at here
      rw [if_neg (by simp [here])]
      exact seek_hit agree m step.2 ⟨ahead, first.holds, fun k low => first.skipped k (by omega)⟩
        within
termination_by m - n

theorem seek_miss {c : Cursor} {n : Nat} (agree : ∀ d m, d.Stands r R m → stop d = p m)
    (stands : c.Stands r R n) (unseen : ∀ m, n < m → m ≤ R * r.length → p m = false) :
    (c.seek stop).1 = false ∧ (c.seek stop).2.Stands r R (R * r.length) := by
  rw [Cursor.seek]
  by_cases more : n < R * r.length
  · have step := stands.next_more more
    split <;> rename_i d read <;> rw [read] at step
    · cases step.1
    · have here := agree d (n + 1) step.2
      rw [unseen (n + 1) (by omega) more] at here
      rw [if_neg (by simp [here])]
      exact seek_miss agree step.2 fun m low => unseen m (by omega)
  · have last : n = R * r.length := Nat.le_antisymm stands.within (by omega)
    subst last
    have step := stands.next_spent
    split <;> rename_i read <;> rw [read] at step
    · exact ⟨rfl, step.2⟩
    · cases step.1
termination_by R * r.length - n

theorem sees (mark : Sync) (d : Cursor) (m : Nat) (stands : d.Stands r R m) :
    mark.isAt d.word = mark.seenAt r m := by
  rw [Sync.seenAt, stands.word]

theorem past_pulse (d : Cursor) (m : Nat) (stands : d.Stands r R m) :
    d.isPastPulse = (decide (r.length < m) && (m - 1) % r.length == 0) := by
  rw [Cursor.isPastPulse, stands.sincePulse, stands.turn]
  by_cases begun : m = 0
  · simp [begun]
  · have cells := stands.some_cells begun
    have later : 0 < (m - 1) / r.length ↔ r.length < m := by
      rw [Nat.div_pos_iff]
      omega
    rw [if_neg begun, if_neg begun, Bool.eq_iff_iff]
    simp [later, and_comm]

-- Wherever the cursor stands, the read behind the next pulse notes the length, and so does the read
-- that finds every turn spent.
theorem seek_index_measures {c : Cursor} {n : Nat} (stands : c.Stands r R n) (turns : 0 < R) :
    c.seekIndex.2.measured = r.length := by
  rw [Cursor.seekIndex, Cursor.seek]
  by_cases more : n < R * r.length
  · have step := stands.next_more more
    have noted := stands.next_measures (c := c)
    split <;> rename_i d read <;> rw [read] at step noted
    · cases step.1
    · split
      · rename_i past
        have pulse := past_pulse d (n + 1) step.2
        rw [past] at pulse
        simp only [Nat.add_sub_cancel, Bool.true_eq, Bool.and_eq_true, decide_eq_true_eq,
          beq_iff_eq] at pulse
        have positive := Nat.pos_of_ne_zero (n := r.length) (by rintro empty; simp [empty] at more)
        exact noted (by omega) pulse.2
      · exact seek_index_measures step.2 turns
  · have last : n = R * r.length := Nat.le_antisymm stands.within (by omega)
    subst last
    have step := stands.next_spent
    have noted := stands.next_measures (c := c)
    split <;> rename_i read <;> rw [read] at step noted
    · rcases Nat.eq_zero_or_pos r.length with empty | cells
      · rcases step.2.measured with zero | length
        · rw [zero, empty]
        · exact length
      · exact noted (Nat.mul_pos turns cells) (Nat.mul_mod_left _ _)
    · cases step.1
termination_by R * r.length - n

end Cursor.Stands

namespace Reader

theorem steady_seek {stop : Cursor → Bool} (p : Revolution → Nat → Bool)
    (agree : ∀ r R d m, d.Stands r R m → stop d = p r m)
    (forward : ∀ c : Cursor, c.Reaches (c.seek stop).2) :
    (⟨Cursor.seek stop, forward⟩ : Reader Bool).Steady := by
  intro r R n _ _
  by_cases found : ∃ m, n < m ∧ m ≤ R * r.length ∧ p r m = true
  · obtain ⟨k, ahead, within, holds⟩ := found
    obtain ⟨m, bound, first⟩ := first_after_exists (p r) n k ahead holds
    exact ⟨true, m, fun c stands => stands.seek_hit (agree r R) m first (by omega)⟩
  · refine ⟨false, R * r.length, fun c stands => stands.seek_miss (agree r R) ?_⟩
    intro m low high
    cases holds : p r m with
    | false => rfl
    | true => exact absurd ⟨m, low, high, holds⟩ found

end Reader

namespace Scan

variable {α : Type}

inductive Course (format : Format) (mark : Sync) (look : Reader (Finding α)) (r : Revolution)
    (R : Nat) : Nat → Except Fault α → Prop
  | exhausted {n : Nat} (unseen : ∀ m, n < m → m ≤ R * r.length → mark.seenAt r m = false) :
      Course format mark look r R n (.error (.noMatch format))
  | accepted {n m j : Nat} {value : α} (first : FirstAfter (mark.seenAt r) n m)
      (within : m ≤ R * r.length) (takes : look.Takes r R m (.accept value) j) :
      Course format mark look r R n (.ok value)
  | rejected {n m j : Nat} {why : Flaw} {result : Except Fault α}
      (first : FirstAfter (mark.seenAt r) n m) (within : m ≤ R * r.length)
      (takes : look.Takes r R m (.reject why) j) (rest : Course format mark look r R j result) :
      Course format mark look r R n result
  | gaveUp {n m j : Nat} {error : Fault} (first : FirstAfter (mark.seenAt r) n m)
      (within : m ≤ R * r.length) (takes : look.Takes r R m (.giveUp error) j) :
      Course format mark look r R n (.error error)

theorem candidate_found {mark : Sync} {c : Cursor} {r : Revolution} {R n : Nat}
    (stands : c.Stands r R n) (sought : (c.seek (mark.isAt ·.word)).1 = true) :
    ∃ m, m ≤ R * r.length ∧ FirstAfter (mark.seenAt r) n m ∧
      (c.seek (mark.isAt ·.word)).2.Stands r R m := by
  by_cases ahead : ∃ k, n < k ∧ k ≤ R * r.length ∧ mark.seenAt r k = true
  · obtain ⟨k, ahead, within, seen⟩ := ahead
    obtain ⟨m, bound, first⟩ := first_after_exists (mark.seenAt r) n k ahead seen
    have reached := stands.seek_hit (Cursor.Stands.sees mark) m first (by omega)
    exact ⟨m, by omega, first, reached.2⟩
  · have missed := stands.seek_miss (Cursor.Stands.sees mark) fun m low high =>
      Bool.eq_false_iff.mpr fun seen => ahead ⟨m, low, high, seen⟩
    rw [missed.1] at sought
    cases sought

theorem candidate_missed {mark : Sync} {c : Cursor} {r : Revolution} {R n : Nat}
    (stands : c.Stands r R n) (sought : (c.seek (mark.isAt ·.word)).1 = false) :
    (∀ m, n < m → m ≤ R * r.length → mark.seenAt r m = false) ∧
      (c.seek (mark.isAt ·.word)).2.Stands r R (R * r.length) := by
  have unseen : ∀ m, n < m → m ≤ R * r.length → mark.seenAt r m = false := by
    intro m low high
    rw [Bool.eq_false_iff]
    intro seen
    obtain ⟨k, bound, first⟩ := first_after_exists (mark.seenAt r) n m low seen
    have hit := (stands.seek_hit (Cursor.Stands.sees mark) k first (by omega)).1
    rw [sought] at hit
    cases hit
  exact ⟨unseen, (stands.seek_miss (Cursor.Stands.sees mark) unseen).2⟩

theorem look_takes {look : Reader (Finding α)} (steady : look.Steady) {c d : Cursor} {r : Revolution}
    {R n : Nat} {finding : Finding α} (turns : 0 < R) (stands : c.Stands r R n)
    (looked : look.run c = (finding, d)) :
    ∃ m, look.Takes r R n finding m ∧ d.Stands r R m := by
  obtain ⟨a, m, takes⟩ := steady r R n turns stands.within
  have here := takes c stands
  rw [looked] at here
  obtain ⟨rfl, reached⟩ := here
  exact ⟨m, takes, reached⟩

theorem loop_course (format : Format) (mark : Sync) (look : Reader (Finding α)) (steady : look.Steady)
    (r : Revolution) (R n candidates : Nat) (turns : 0 < R) (log : List Event) (c : Cursor)
    (stands : c.Stands r R n) :
    Course format mark look r R n (loop format mark look candidates log c).1.result := by
  fun_induction loop format mark look candidates log c generalizing n with
  | case1 candidates log c d sought =>
    exact .exhausted (candidate_missed stands (congrArg Prod.fst sought)).1
  | case2 candidates log c d sought offset value e looked =>
    obtain ⟨m, within, first, there⟩ := candidate_found stands (congrArg Prod.fst sought)
    rw [sought] at there
    obtain ⟨j, takes, -⟩ := look_takes steady turns there looked
    exact .accepted first within takes
  | case3 candidates log c d sought offset why e looked ih =>
    obtain ⟨m, within, first, there⟩ := candidate_found stands (congrArg Prod.fst sought)
    rw [sought] at there
    obtain ⟨j, takes, stopped⟩ := look_takes steady turns there looked
    exact .rejected first within takes (ih j stopped)
  | case4 candidates log c d sought offset error e looked =>
    obtain ⟨m, within, first, there⟩ := candidate_found stands (congrArg Prod.fst sought)
    rw [sought] at there
    obtain ⟨j, takes, -⟩ := look_takes steady turns there looked
    exact .gaveUp first within takes

-- Where a search ends that fails: at the end of all turns, or where a look gave up.
theorem loop_fails (format : Format) (mark : Sync) (look : Reader (Finding α)) (steady : look.Steady)
    {r : Revolution} {R : Nat} {p : Fault → Nat → Prop} (turns : 0 < R)
    (spent : p (.noMatch format) (R * r.length))
    (gives : ∀ m stop error, mark.seenAt r m = true → m ≤ R * r.length →
      look.Takes r R m (.giveUp error) stop → p error stop)
    (n candidates : Nat) (log : List Event) (c : Cursor) (stands : c.Stands r R n) {error : Fault}
    (failed : (loop format mark look candidates log c).1.result = .error error) :
    ∃ stop, (loop format mark look candidates log c).2.Stands r R stop ∧ p error stop := by
  fun_induction loop format mark look candidates log c generalizing n with
  | case1 candidates log c d sought =>
    have missed := (candidate_missed stands (congrArg Prod.fst sought)).2
    rw [sought] at missed
    cases failed
    exact ⟨_, missed, spent⟩
  | case2 candidates log c d sought offset value e looked => cases failed
  | case3 candidates log c d sought offset why e looked ih =>
    obtain ⟨m, within, first, there⟩ := candidate_found stands (congrArg Prod.fst sought)
    rw [sought] at there
    obtain ⟨j, takes, stopped⟩ := look_takes steady turns there looked
    exact ih j stopped failed
  | case4 candidates log c d sought offset other e looked =>
    obtain ⟨m, within, first, there⟩ := candidate_found stands (congrArg Prod.fst sought)
    rw [sought] at there
    obtain ⟨j, takes, stopped⟩ := look_takes steady turns there looked
    cases failed
    exact ⟨j, stopped, gives m j error first.holds within takes⟩

-- With no turn to read there is no candidate either.
theorem scan_course (format : Format) (mark : Sync) (look : Reader (Finding α)) (steady : look.Steady)
    (r : Revolution) (R : Nat) :
    Course format mark look r R 0 ((scan format mark look).run (Cursor.start r R)).1.result := by
  have begun := Cursor.start_stands r R
  cases R with
  | succ R => exact loop_course format mark look steady r (R + 1) 0 0 (Nat.succ_pos R) [] _ begun
  | zero =>
    have unread : ∀ m, 0 < m → m ≤ 0 * r.length → mark.seenAt r m = false := by
      intro m positive within
      rw [Nat.zero_mul] at within
      omega
    have missed := (begun.seek_miss (Cursor.Stands.sees mark) unread).1
    change Course format mark look r 0 0
      (loop format mark look 0 [] (Cursor.start r 0)).1.result
    unfold loop
    split <;> rename_i sought <;> rw [sought] at missed
    · exact .exhausted unread
    · cases missed

end Scan

end FloppyTrack
