import FloppyTrack.Proofs.Misfits

set_option autoImplicit false

namespace FloppyTrack

namespace Reader

variable {α β : Type}

-- With more turns the reader does the same, unless it used up those that it had, and then it returned
-- something `lost`.
structure Lasts (x : Reader α) (lost : α → Prop) : Prop where
  steady : x.Steady
  longer : ∀ {r : Revolution} {R R' n m : Nat} {a : α}, 0 < R → R ≤ R' → n ≤ R * r.length →
    x.Takes r R n a m → x.Takes r R' n a m ∨ m = R * r.length ∧ lost a

theorem lasts_pure (a : α) (lost : α → Prop) : (pure a : Reader α).Lasts lost := by
  refine ⟨steady_pure a, fun _ _ within takes => .inl ?_⟩
  obtain ⟨value, place⟩ := takes_unique within takes (takes_pure a)
  rw [value, place]
  exact takes_pure a

theorem lasts_start_of_last (bits : Nat) (lost : Nat → Prop) :
    (asks (·.startOfLast bits)).Lasts lost := by
  refine ⟨steady_start_of_last bits, fun {r R R' n m offset} _ _ within takes => .inl ?_⟩
  obtain ⟨c, stands⟩ := Cursor.Stands.at_every_place within
  obtain ⟨same, stopped⟩ := takes c stands
  obtain rfl : n = m := stands.read.symm.trans stopped.read
  refine takes_asks fun d other => ?_
  rw [← same]
  change d.startOfLast bits = c.startOfLast bits
  exact other.start_of_last_same stands bits

theorem lasts_bits (k : Nat) : (bits k).Lasts (· = none) := by
  refine ⟨steady_bits k, fun {r R R' n m word} turns more within takes => ?_⟩
  by_cases room : n + k ≤ R * r.length
  · obtain ⟨rfl, rfl⟩ := takes_unique within takes (takes_bits k room)
    exact .inl (takes_bits k (room.trans (Nat.mul_le_mul_right _ more)))
  · obtain ⟨rfl, rfl⟩ := takes_unique within takes (takes_no_bits k (Nat.lt_of_not_le room))
    exact .inr ⟨rfl, rfl⟩

theorem lasts_bytes (k : Nat) : (bytes? k).Lasts (· = none) := by
  refine ⟨steady_bytes k, fun {r R R' n m data} turns more within takes => ?_⟩
  by_cases room : n + 8 * k ≤ R * r.length
  · obtain ⟨rfl, rfl⟩ := takes_unique within takes (takes_bytes k room)
    exact .inl (takes_bytes k (room.trans (Nat.mul_le_mul_right _ more)))
  · obtain ⟨rfl, rfl⟩ := takes_unique within takes (takes_no_bytes k (Nat.lt_of_not_le room))
    exact .inr ⟨rfl, rfl⟩

-- The run of both, cut where the first one stops.
theorem takes_parts {x : Reader α} {f : α → Reader β} {r : Revolution} {R n k : Nat} {b : β}
    (first : x.Steady) (second : ∀ a, (f a).Steady) (turns : 0 < R) (within : n ≤ R * r.length)
    (takes : (x >>= f).Takes r R n b k) :
    ∃ a m, x.Takes r R n a m ∧ m ≤ R * r.length ∧ (f a).Takes r R m b k := by
  obtain ⟨a, m, one⟩ := first r R n turns within
  have reached := (takes_within one within).2
  obtain ⟨b', k', two⟩ := second a r R m turns reached
  obtain ⟨rfl, rfl⟩ := takes_unique within takes (takes_bind one two)
  exact ⟨a, m, one, reached, two⟩

theorem always_takes {x : Reader α} {p : α → Prop} {r : Revolution} {R n m : Nat} {a : α}
    (always : x.Always p) (within : n ≤ R * r.length) (takes : x.Takes r R n a m) : p a := by
  obtain ⟨c, stands⟩ := Cursor.Stands.at_every_place within
  rw [← (takes c stands).1]
  exact always c

theorem lasts_bind {x : Reader α} {f : α → Reader β} {p : α → Prop} {q : β → Prop}
    (first : x.Lasts p) (second : ∀ a, (f a).Lasts q) (dead : ∀ a, p a → (f a).Always q) :
    (x >>= f).Lasts q := by
  refine ⟨steady_bind first.steady fun a => (second a).steady,
    fun {r R R' n k b} turns more within takes => ?_⟩
  obtain ⟨a, m, one, reached, two⟩ :=
    takes_parts first.steady (fun a => (second a).steady) turns within takes
  rcases first.longer turns more within one with same | ⟨rfl, ended⟩
  · exact (second a).longer turns more reached two |>.imp_left (takes_bind same)
  · have stopped := takes_within two reached
    exact .inr ⟨Nat.le_antisymm stopped.2 stopped.1, always_takes (dead a ended) reached two⟩

-- What follows a read that may run out of cells, and stops at once if it did.
theorem lasts_read {x : Reader (Option α)} {f : Option α → Reader β} {q : β → Prop} {b : β}
    (first : x.Lasts (· = none)) (stops : f none = pure b) (lost : q b)
    (goesOn : ∀ a, (f (some a)).Lasts q) : (x >>= f).Lasts q := by
  refine lasts_bind first (fun read => ?_) fun read none => ?_
  · cases read with
    | none =>
      rw [stops]
      exact lasts_pure b q
    | some a => exact goesOn a
  · rw [none, stops]
    exact always_pure lost

theorem lasts_byte : byte?.Lasts (· = none) :=
  lasts_read (lasts_bits 16) rfl rfl fun _ => lasts_pure _ _

theorem lasts_fill (byte : UInt8) (slot left : Nat) :
    (fillFrom byte slot left).Lasts fun result => ∃ why, result = .error why := by
  induction left generalizing slot with
  | zero => exact lasts_pure _ _
  | succ left ih =>
    refine lasts_read lasts_byte rfl ⟨_, rfl⟩ fun found => ?_
    dsimp only
    split
    · exact ih (slot + 1)
    · exact lasts_pure _ _

end Reader

namespace Scan

variable {α : Type} {format : Format} {mark : Sync} {look : Reader (Finding α)} {r : Revolution}
  {R n : Nat}

-- With more turns a look accepts what it accepted, and it rejects at the place where it rejected unless
-- that was the end.
structure Outlasts (look : Reader (Finding α)) : Prop where
  steady : look.Steady
  accepts : ∀ {r : Revolution} {R R' n stop : Nat} {value : α}, 0 < R → R ≤ R' → n ≤ R * r.length →
    look.Takes r R n (.accept value) stop → ∃ later, look.Takes r R' n (.accept value) later
  rejects : ∀ {r : Revolution} {R R' n stop : Nat} {why : Flaw}, 0 < R → R ≤ R' → n ≤ R * r.length →
    look.Takes r R n (.reject why) stop → stop < R * r.length → look.Takes r R' n (.reject why) stop

theorem lasting_outlasts {lost : Finding α → Prop} (lasts : look.Lasts lost)
    (declines : ∀ value, ¬ lost (.accept value)) : Outlasts look := by
  refine ⟨lasts.steady, fun {r R R' n stop value} turns more within takes => ?_,
    fun {r R R' n stop why} turns more within takes left => ?_⟩
  · rcases lasts.longer turns more within takes with same | ⟨-, lost⟩
    · exact ⟨stop, same⟩
    · exact absurd lost (declines value)
  · rcases lasts.longer turns more within takes with same | ⟨ended, -⟩
    · exact same
    · omega

theorem outlasts_pure (finding : Finding α) : Outlasts (pure finding) :=
  lasting_outlasts (Reader.lasts_pure finding fun _ => False) fun _ => id

theorem outlasts_bind {β : Type} {x : Reader β} {f : β → Reader (Finding α)} {p : β → Prop}
    (first : x.Lasts p) (second : ∀ b, Outlasts (f b))
    (dead : ∀ b, p b → (f b).Always fun finding => ∀ value, finding ≠ .accept value) :
    Outlasts (x >>= f) := by
  have steady := fun b => (second b).steady
  refine ⟨Reader.steady_bind first.steady steady,
    fun {r R R' n stop value} turns more within takes => ?_,
    fun {r R R' n stop why} turns more within takes left => ?_⟩
  · obtain ⟨b, m, one, reached, two⟩ := Reader.takes_parts first.steady steady turns within takes
    rcases first.longer turns more within one with same | ⟨-, lost⟩
    · obtain ⟨later, accepts⟩ := (second b).accepts turns more reached two
      exact ⟨later, Reader.takes_bind same accepts⟩
    · exact absurd rfl (Reader.always_takes (dead b lost) reached two value)
  · obtain ⟨b, m, one, reached, two⟩ := Reader.takes_parts first.steady steady turns within takes
    have forward := (Reader.takes_within two reached).1
    rcases first.longer turns more within one with same | ⟨ended, -⟩
    · exact Reader.takes_bind same ((second b).rejects turns more reached two left)
    · omega

-- What a look at the next candidate comes to decides how the search goes on.
def Finding.Decides (finding : Finding α) (format : Format) (mark : Sync) (look : Reader (Finding α))
    (r : Revolution) (R stop : Nat) (result : Except Fault α) : Prop :=
  match finding with
  | .accept value => result = .ok value
  | .reject _ => Course format mark look r R stop result
  | .giveUp error => result = .error error

theorem Course.looked {m stop : Nat} {finding : Finding α} {result : Except Fault α}
    (course : Course format mark look r R n result) (first : FirstAfter (mark.seenAt r) n m)
    (within : m ≤ R * r.length) (takes : look.Takes r R m finding stop) :
    Finding.Decides finding format mark look r R stop result := by
  cases course with
  | exhausted unmarked =>
    have unseen := unmarked m first.ahead within
    rw [first.holds] at unseen
    cases unseen
  | accepted other reached looked =>
    obtain rfl := first_after_unique other first
    obtain ⟨rfl, rfl⟩ := Reader.takes_unique within takes looked
    exact rfl
  | rejected other reached looked rest =>
    obtain rfl := first_after_unique other first
    obtain ⟨rfl, rfl⟩ := Reader.takes_unique within takes looked
    exact rest
  | gaveUp other reached looked =>
    obtain rfl := first_after_unique other first
    obtain ⟨rfl, rfl⟩ := Reader.takes_unique within takes looked
    exact rfl

theorem Course.unique {result other : Except Fault α} (one : Course format mark look r R n result)
    (two : Course format mark look r R n other) : other = result := by
  induction one with
  | exhausted unmarked =>
    refine two.declined (· = _) rfl fun k m same first within => ?_
    subst same
    have unseen := unmarked m first.ahead within
    rw [first.holds] at unseen
    cases unseen
  | accepted first within takes => exact two.looked first within takes
  | rejected first within takes rest ih => exact ih (two.looked first within takes)
  | gaveUp first within takes => exact two.looked first within takes

theorem Course.longer {R' : Nat} {result : Except Fault α} {value : α} (outlasts : Outlasts look)
    (turns : 0 < R) (more : R ≤ R') (course : Course format mark look r R n result)
    (found : result = .ok value) : Course format mark look r R' n (.ok value) := by
  have further : R * r.length ≤ R' * r.length := Nat.mul_le_mul_right _ more
  induction course with
  | exhausted unmarked => cases found
  | accepted first within takes =>
    cases found
    obtain ⟨later, again⟩ := outlasts.accepts turns more within takes
    exact .accepted first (within.trans further) again
  | rejected first within takes rest ih =>
    -- The search went on from there to a candidate, so the look had not run into the end.
    subst found
    obtain ⟨m, stop, ahead, bound, -⟩ := rest.found_at
    have again := outlasts.rejects turns more within takes (Nat.lt_of_lt_of_le ahead bound)
    exact .rejected first (within.trans further) again (ih rfl)
  | gaveUp first within takes => cases found

theorem scan_longer {R' : Nat} {value : α} (outlasts : Outlasts look) (more : R ≤ R')
    (found : ((scan format mark look).run (Cursor.start r R)).1.result = .ok value) :
    ((scan format mark look).run (Cursor.start r R')).1.result = .ok value := by
  have course := scan_course format mark look outlasts.steady r R
  rw [found] at course
  obtain ⟨m, stop, ahead, within, -⟩ := course.found_at
  have turns : 0 < R := by
    refine Nat.pos_of_ne_zero ?_
    rintro rfl
    omega
  exact (course.longer outlasts turns more rfl).unique
    (scan_course format mark look outlasts.steady r R')

theorem scan_map_longer {β : Type} {R' : Nat} {kept : α → β} {value : β} (outlasts : Outlasts look)
    (more : R ≤ R')
    (found : kept <$> ((scan format mark look).run (Cursor.start r R)).1.result = .ok value) :
    kept <$> ((scan format mark look).run (Cursor.start r R')).1.result = .ok value := by
  cases sought : ((scan format mark look).run (Cursor.start r R)).1.result with
  | error error =>
    rw [sought] at found
    cases found
  | ok place =>
    rw [sought] at found
    rwa [scan_longer outlasts more sought]

end Scan

namespace LongTrack

theorem lasts_signature (t : LongTrack) :
    t.readSignature.Lasts fun signed => ∃ why, signed = .error why := by
  unfold readSignature
  split
  · exact Reader.lasts_pure _ _
  · refine Reader.lasts_read (Reader.lasts_bytes _) rfl ⟨_, rfl⟩ fun raw => ?_
    dsimp only
    split <;> exact Reader.lasts_pure _ _

theorem lasts_run (byte : UInt8) (count : Nat) :
    (do return (← Reader.fill count byte).map fun _ => byte : Reader (Except Flaw UInt8)).Lasts
      fun filled => ∃ why, filled = .error why := by
  refine Reader.lasts_bind (Reader.lasts_fill byte 1 (count - 1)) (fun _ => Reader.lasts_pure _ _) ?_
  rintro _ ⟨why, rfl⟩
  exact Reader.always_pure ⟨why, rfl⟩

theorem lasts_read_fill (t : LongTrack) :
    t.readFill.Lasts fun filled => ∃ why, filled = .error why := by
  unfold readFill
  cases t.fill with
  | fixed value => exact lasts_run value t.repeats
  | captured =>
    exact Reader.lasts_read Reader.lasts_byte rfl ⟨_, rfl⟩ fun byte => lasts_run byte t.repeats

-- The length is the same at the next pulse as at the end.
theorem measured_outlasts (t : LongTrack) (value : Nat × List UInt8) :
    Scan.Outlasts (do
      match ← t.readLength with
      | .error error => return .giveUp error
      | .ok () => return .accept value) := by
  have steady : ∀ measured : Except Fault Unit,
      (match measured with
        | .error error => pure (.giveUp error)
        | .ok () => pure (.accept value) : Reader (Finding (Nat × List UInt8))).Steady := by
    rintro (error | _) <;> exact Reader.steady_pure _
  refine ⟨Reader.steady_bind (steady_read_length t) steady,
    fun {r R R' n stop other} turns more within takes => ?_,
    fun {r R R' n stop why} turns more within takes left => ?_⟩
  · obtain ⟨measured, m, one, reached, two⟩ :=
      Reader.takes_parts (steady_read_length t) steady turns within takes
    cases measured with
    | error error => cases (Reader.takes_unique reached two (Reader.takes_pure _)).1
    | ok _ =>
      have long := Reader.ends_takes within (ends_read_length t turns within) one rfl
      obtain ⟨later, again⟩ := takes_read_length (t := t) (Nat.lt_of_lt_of_le turns more)
        (within.trans (Nat.mul_le_mul_right _ more)) long
      cases (Reader.takes_unique reached two (Reader.takes_pure _)).1
      exact ⟨later, Reader.takes_bind again (Reader.takes_pure _)⟩
  · obtain ⟨measured, m, one, reached, two⟩ :=
      Reader.takes_parts (steady_read_length t) steady turns within takes
    cases measured with
    | error error => cases (Reader.takes_unique reached two (Reader.takes_pure _)).1
    | ok _ => cases (Reader.takes_unique reached two (Reader.takes_pure _)).1

theorem outlasts_look (t : LongTrack) : Scan.Outlasts t.look := by
  have rejected : ∀ why : Flaw, (pure (.reject why) : Reader (Finding (Nat × List UInt8))).Always
      fun finding => ∀ value, finding ≠ .accept value := fun why => Reader.always_pure nofun
  refine Scan.outlasts_bind (Reader.lasts_start_of_last _ fun _ => False) (fun offset => ?_) nofun
  refine Scan.outlasts_bind (lasts_signature t) (fun signed => ?_) ?_
  · cases signed with
    | error why => exact Scan.outlasts_pure _
    | ok _ =>
      refine Scan.outlasts_bind (lasts_read_fill t) (fun filled => ?_) ?_
      · cases filled with
        | error why => exact Scan.outlasts_pure _
        | ok byte => exact measured_outlasts t (offset, t.dataOf byte)
      · rintro _ ⟨why, rfl⟩
        exact rejected why
  · rintro _ ⟨why, rfl⟩
    exact rejected why

-- A cursor that has no turn to read measures none.
theorem measured_at_most (r : Revolution) (R : Nat) :
    (Cursor.start r R).seekIndex.2.measured ≤ r.length := by
  have begun := Cursor.start_stands r R
  cases R with
  | succ R => exact Nat.le_of_eq (begun.seek_index_measures (Nat.succ_pos R))
  | zero =>
    have unread : ∀ m, 0 < m → m ≤ 0 * r.length →
        (decide (r.length < m) && (m - 1) % r.length == 0) = false := by
      intro m begun within
      omega
    rcases (begun.seek_miss Cursor.Stands.past_pulse unread).2.measured with fresh | whole
    · exact fresh.trans_le (Nat.zero_le _)
    · exact Nat.le_of_eq whole

theorem measured_long {t : LongTrack} (unmarked : t.mark = none) {start track : Track}
    {r : Revolution} {R : Nat}
    (found : ((t.codec.decode start).run (Cursor.start r R)).1.result = .ok track) :
    t.minimum.getD 0 ≤ r.length ∧ track = t.measuredAs start := by
  rw [decoded_unmarked unmarked] at found
  split at found
  · rename_i long
    cases found
    exact ⟨long.trans (measured_at_most r R), rfl⟩
  · cases found

theorem decoded_longer (t : LongTrack) {start track : Track} {r : Revolution} {R R' : Nat}
    (more : R ≤ R')
    (found : ((t.codec.decode start).run (Cursor.start r R)).1.result = .ok track) :
    ((t.codec.decode start).run (Cursor.start r R')).1.result = .ok track := by
  cases marked : t.mark with
  | none =>
    obtain ⟨long, rfl⟩ := measured_long marked found
    cases R' with
    | succ R' => rw [decoded_measured marked start r (Nat.succ_pos R'), if_pos long]
    | zero =>
      obtain rfl := Nat.le_zero.mp more
      exact found
  | some mark =>
    rw [decoded_scan marked] at found ⊢
    exact Scan.scan_map_longer (outlasts_look t) more found

end LongTrack

namespace KeyTrack

theorem outlasts_look : Scan.Outlasts look := by
  refine ⟨steady_look, fun {r R R' n stop data} turns more within takes => ?_,
    fun {r R R' n stop why} turns more within takes left => ?_⟩
  · obtain ⟨room, rfl, genuine⟩ := accepted_block within takes
    have same := (Reader.takes_unique within takes (look_takes room)).1
    rw [same]
    exact ⟨_, look_takes (room.trans (Nat.mul_le_mul_right _ more))⟩
  · by_cases room : n + 976 ≤ R * r.length
    · obtain ⟨same, place⟩ := Reader.takes_unique within takes (look_takes room)
      rw [same, place]
      exact look_takes (room.trans (Nat.mul_le_mul_right _ more))
    · obtain ⟨other, short⟩ := look_short (Nat.lt_of_not_le room)
      have ended := (Reader.takes_unique within takes short).2
      omega

theorem decoded_longer {start track : Track} {r : Revolution} {R R' : Nat} (more : R ≤ R')
    (found : ((codec.decode start).run (Cursor.start r R)).1.result = .ok track) :
    ((codec.decode start).run (Cursor.start r R')).1.result = .ok track := by
  rcases led_or_unled r R with ⟨m, first, within⟩ | unseen
  · obtain ⟨result, course, outcome⟩ := decoded_led start first within
    obtain ⟨other, again, outcome'⟩ :=
      decoded_led start first (within.trans (Nat.mul_le_mul_right _ more))
    have turns : 0 < R := by
      refine Nat.pos_of_ne_zero ?_
      rintro rfl
      have ahead := first.ahead
      omega
    have kept := outcome.symm.trans found
    cases result with
    | error error => cases kept
    | ok data =>
      have same := (course.longer outlasts_look turns more rfl).unique again
      rw [same] at outcome'
      exact outcome'.trans kept
  · have missed := (unled_run start unseen).1.symm.trans found
    cases missed

end KeyTrack

namespace RType

-- Out of cells inside a block the look gives up.
theorem lasts_A : lookA.Lasts (· = .giveUp (.noMatch .rTypeA)) := by
  refine Reader.lasts_bind (Reader.lasts_start_of_last _ fun _ => False) (fun offset => ?_) nofun
  refine Reader.lasts_read Reader.lasts_byte rfl rfl fun marker => ?_
  dsimp only
  split
  · exact Reader.lasts_pure _ _
  · refine Reader.lasts_read (Reader.lasts_bits 32) rfl rfl fun word => ?_
    refine Reader.lasts_read (Reader.lasts_bytes _) rfl rfl fun raw => ?_
    dsimp only
    split <;> exact Reader.lasts_pure _ _

theorem lasts_B : lookB.Lasts (· = .giveUp (.noMatch .rTypeB)) := by
  refine Reader.lasts_bind (Reader.lasts_start_of_last _ fun _ => False) (fun offset => ?_) nofun
  refine Reader.lasts_read Reader.lasts_byte rfl rfl fun marker => ?_
  dsimp only
  split
  · exact Reader.lasts_pure _ _
  · refine Reader.lasts_read (Reader.lasts_bytes _) rfl rfl fun raw => ?_
    refine Reader.lasts_read (Reader.lasts_bytes 8) rfl rfl fun sum => ?_
    dsimp only
    split <;> exact Reader.lasts_pure _ _

end RType

theorem more_turns_accept (codec : Codec) (listed : codec ∈ Catalog.codecs) (source : Revolution)
    (start track : Track) (turns more : Nat) (further : turns ≤ more)
    (found : ((codec.decode start).run (Cursor.start source turns)).1.result = .ok track) :
    ((codec.decode start).run (Cursor.start source more)).1.result = .ok track := by
  revert found
  refine Catalog.codec_cases (p := fun codec =>
    ((codec.decode start).run (Cursor.start source turns)).1.result = .ok track →
      ((codec.decode start).run (Cursor.start source more)).1.result = .ok track) ?_ ?_ ?_ ?_ codec
    listed
  · exact fun t _ => t.decoded_longer further
  · exact KeyTrack.decoded_longer further
  · rw [RType.decoded_A, RType.decoded_A]
    exact Scan.scan_map_longer (Scan.lasting_outlasts RType.lasts_A nofun) further
  · rw [RType.decoded_B, RType.decoded_B]
    exact Scan.scan_map_longer (Scan.lasting_outlasts RType.lasts_B nofun) further

-- A turn of just the least length. It is measured at its end if there is one, and at the next pulse if
-- there are three.
def leastTurn : Revolution := (Emission.start 105000 0).toRevolution

theorem least_turn_measured :
    ((LongTrack.empty.codec.decode .unformatted).run (Cursor.start leastTurn 1)).1.result =
      .ok (LongTrack.empty.measuredAs .unformatted) := by
  have length : leastTurn.length = 105000 := Emission.to_revolution_length _
  have least : LongTrack.empty.minimum.getD 0 = 105000 := rfl
  rw [LongTrack.decoded_measured rfl _ _ Nat.one_pos, length, least, if_pos (Nat.le_refl _)]

theorem least_turn_accepted :
    LongTrack.empty.codec ∈ Catalog.codecs ∧ 1 ≤ 3 ∧
      ((LongTrack.empty.codec.decode .unformatted).run (Cursor.start leastTurn 1)).1.result =
        .ok (LongTrack.empty.measuredAs .unformatted) ∧
      ((LongTrack.empty.codec.decode .unformatted).run (Cursor.start leastTurn 3)).1.result =
        .ok (LongTrack.empty.measuredAs .unformatted) := by
  have listed := LongTrack.empty.codec_listed (by decide)
  exact ⟨listed, by decide, least_turn_measured,
    more_turns_accept _ listed leastTurn .unformatted _ 1 3 (by decide) least_turn_measured⟩

end FloppyTrack
