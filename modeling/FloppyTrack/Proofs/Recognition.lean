import FloppyTrack.Codec
import FloppyTrack.Proofs.Search

set_option autoImplicit false

namespace FloppyTrack

def Codec.outcome (codec : Codec) (start : Track) (source : Revolution) : Except Fault Track :=
  ((codec.decode start).run (Cursor.start source Cursor.defaultRevolutions)).1.result

theorem Codec.outcome_run (codec : Codec) (start : Track) (source : Revolution) :
    codec.outcome start source = ((codec.decode start).run (Cursor.start source 3)).1.result := rfl

-- What a look may come to on the way to a candidate that ends at `goal`, if it stops at `stop`.
def Finding.Settles {α : Type} (wanted : α → Prop) (goal stop : Nat) : Finding α → Prop
  | .accept value => wanted value
  | .reject _ => stop < goal
  | .giveUp _ => False

def Finding.Declines {α : Type} (format : Format) : Finding α → Prop
  | .accept _ => False
  | .reject _ => True
  | .giveUp error => error = .noMatch format

namespace Scan

variable {α : Type} {format : Format} {mark : Sync} {look : Reader (Finding α)} {r : Revolution}
  {R n : Nat} {result : Except Fault α}

theorem Course.first_given {m : Nat} {p : Finding α → Prop}
    (course : Course format mark look r R n result) (first : FirstAfter (mark.seenAt r) n m)
    (within : m ≤ R * r.length) (gives : look.Gives r R m p)
    (accepts : ∀ finding, p finding → ∃ value, finding = .accept value) :
    ∃ value, p (.accept value) ∧ result = .ok value := by
  cases course with
  | exhausted unmarked =>
    have unseen := unmarked m first.ahead within
    rw [first.holds] at unseen
    cases unseen
  | accepted other reached takes =>
    obtain rfl := first_after_unique other first
    exact ⟨_, Reader.gives_takes within gives takes, rfl⟩
  | rejected other reached takes rest =>
    obtain rfl := first_after_unique other first
    obtain ⟨value, same⟩ := accepts _ (Reader.gives_takes within gives takes)
    cases same
  | gaveUp other reached takes =>
    obtain rfl := first_after_unique other first
    obtain ⟨value, same⟩ := accepts _ (Reader.gives_takes within gives takes)
    cases same

-- A search that every look from a safe place declines and leaves at a safe place finds nothing,
-- however many candidates would be accepted at other places.
theorem Course.declined (safe : Nat → Prop) (course : Course format mark look r R n result)
    (begun : safe n)
    (each : ∀ k m, safe k → FirstAfter (mark.seenAt r) k m → m ≤ R * r.length →
      look.Ends r R m fun finding stop =>
        finding.Declines format ∧ ∀ why, finding = .reject why → safe stop) :
    result = .error (.noMatch format) := by
  induction course with
  | exhausted unmarked => rfl
  | accepted first within takes =>
    exact (Reader.ends_takes within (each _ _ begun first within) takes).1.elim
  | rejected first within takes rest ih =>
    exact ih ((Reader.ends_takes within (each _ _ begun first within) takes).2 _ rfl)
  | gaveUp first within takes =>
    have error := (Reader.ends_takes within (each _ _ begun first within) takes).1
    exact congrArg Except.error error

theorem Course.none_given (course : Course format mark look r R n result)
    (gives : ∀ m, mark.seenAt r m = true → m ≤ R * r.length →
      look.Gives r R m (Finding.Declines format)) :
    result = .error (.noMatch format) := by
  refine course.declined (fun _ => True) trivial fun k m _ first within => ?_
  obtain ⟨finding, stop, takes, declines⟩ := gives m first.holds within
  exact ⟨finding, stop, takes, declines, fun _ _ => trivial⟩

-- No search passes a candidate at which it cannot stop short and which it cannot reject in time.
theorem Course.settled {goal : Nat} {wanted : α → Prop}
    (course : Course format mark look r R n result) (ahead : n < goal)
    (seen : mark.seenAt r goal = true) (within : goal ≤ R * r.length)
    (each : ∀ m, n < m → m ≤ goal → mark.seenAt r m = true →
      ∃ finding stop, look.Takes r R m finding stop ∧ finding.Settles wanted goal stop) :
    ∃ value, wanted value ∧ result = .ok value := by
  induction course with
  | exhausted unmarked =>
    have unseen := unmarked goal ahead within
    rw [seen] at unseen
    cases unseen
  | accepted first reached takes =>
    have upTo := first_after_least first ahead seen
    obtain ⟨finding, stop, settled, holds⟩ := each _ first.ahead upTo first.holds
    obtain ⟨rfl, -⟩ := Reader.takes_unique reached takes settled
    exact ⟨_, holds, rfl⟩
  | rejected first reached takes rest ih =>
    have upTo := first_after_least first ahead seen
    obtain ⟨finding, stop, settled, holds⟩ := each _ first.ahead upTo first.holds
    obtain ⟨rfl, rfl⟩ := Reader.takes_unique reached takes settled
    have forward := (Reader.takes_within takes reached).1
    have before := first.ahead
    exact ih holds fun m low => each m (by omega)
  | gaveUp first reached takes =>
    have upTo := first_after_least first ahead seen
    obtain ⟨finding, stop, settled, holds⟩ := each _ first.ahead upTo first.holds
    obtain ⟨rfl, -⟩ := Reader.takes_unique reached takes settled
    exact holds.elim

theorem Course.found_at {value : α} (course : Course format mark look r R n (.ok value)) :
    ∃ m stop, n < m ∧ m ≤ R * r.length ∧ mark.seenAt r m = true ∧
      look.Takes r R m (.accept value) stop := by
  generalize same : (Except.ok value : Except Fault α) = result at course
  induction course with
  | exhausted unmarked => cases same
  | accepted first within takes =>
    cases same
    exact ⟨_, _, first.ahead, within, first.holds, takes⟩
  | rejected first within takes rest ih =>
    obtain ⟨m, stop, ahead, bound, accepts⟩ := ih same
    have forward := (Reader.takes_within takes within).1
    have before := first.ahead
    exact ⟨m, stop, by omega, bound, accepts⟩
  | gaveUp first within takes => cases same

-- The candidates that a search looks at which goes on from the `n`-th cell.
inductive Meets (mark : Sync) (look : Reader (Finding α)) (r : Revolution) (R : Nat) :
    Nat → Nat → Prop
  | next {n m : Nat} (first : FirstAfter (mark.seenAt r) n m) : Meets mark look r R n m
  | later {n m j k : Nat} {why : Flaw} (first : FirstAfter (mark.seenAt r) n m)
      (takes : look.Takes r R m (.reject why) j) (rest : Meets mark look r R j k) :
      Meets mark look r R n k

-- A look that started before the candidate behind the `m`-th cell read past it and rejected.
def Hides (mark : Sync) (look : Reader (Finding α)) (r : Revolution) (R n m : Nat) : Prop :=
  ∃ k why j, Meets mark look r R n k ∧ k < m ∧ look.Takes r R k (.reject why) j ∧ m ≤ j

theorem Course.accepts_or_hides {m : Nat} (course : Course format mark look r R n result)
    (ahead : n < m) (seen : mark.seenAt r m = true) (within : m ≤ R * r.length)
    (accepts : look.Gives r R m fun finding => ∃ value, finding = .accept value)
    (patient : ∀ k, k ≤ m → mark.seenAt r k = true →
      look.Gives r R k fun finding => ∀ error, finding ≠ .giveUp error) :
    (∃ value, result = .ok value) ∨ Hides mark look r R n m := by
  -- The candidate stays ahead of the search until it is looked at or read past.
  induction course with
  | exhausted unmarked =>
    have unseen := unmarked m ahead within
    rw [seen] at unseen
    cases unseen
  | accepted first reached takes => exact .inl ⟨_, rfl⟩
  | @rejected n k j why result first reached takes rest ih =>
    have upTo := first_after_least first ahead seen
    have before : k < m := by
      refine Nat.lt_of_le_of_ne upTo ?_
      rintro rfl
      obtain ⟨value, same⟩ := Reader.gives_takes reached accepts takes
      cases same
    by_cases resumes : j < m
    · rcases ih resumes with found | ⟨i, later, stop, meets, earlier, looked, past⟩
      · exact .inl found
      · exact .inr ⟨i, later, stop, .later first takes meets, earlier, looked, past⟩
    · exact .inr ⟨k, why, j, .next first, before, takes, Nat.le_of_not_lt resumes⟩
  | @gaveUp n k j error first reached takes =>
    have upTo := first_after_least first ahead seen
    exact absurd rfl (Reader.gives_takes reached (patient k upTo first.holds) takes error)

end Scan

end FloppyTrack
