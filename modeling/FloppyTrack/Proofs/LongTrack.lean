import FloppyTrack.Codec.LongTrack
import FloppyTrack.Proofs.Filling
import FloppyTrack.Proofs.Recognition

set_option autoImplicit false

namespace FloppyTrack

namespace Reader

variable {r : Revolution} {R n : Nat}

theorem checks_fill (byte : UInt8) (left slot : Nat) (within : n ≤ R * r.length) :
    (fillFrom byte slot left).Checks r R n (16 * left) fun _ =>
      r.bytesFrom n left = List.replicate left byte := by
  obtain ⟨result, taken, takes, filled⟩ := takes_fill byte slot left within
  refine ⟨result, n + taken, takes, fun _ => ⟨?_, fun room same => ?_⟩⟩
  · rintro rfl
    cases filled with
    | whole room same => exact ⟨rfl, by omega, bytes_from_replicate.mpr same⟩
  · have passed := filled.unique (.whole (by omega) (bytes_from_replicate.mp same))
    exact passed.1.symm

-- The run ends no later than behind any byte that differs.
theorem takes_broken_fill (slot : Nat) {byte : UInt8} {left k : Nat} (inside : k < left)
    (room : n + 16 * (k + 1) ≤ R * r.length) (differs : r.byteAt (n + 16 * k) ≠ byte) :
    ∃ why stop, (fillFrom byte slot left).Takes r R n (.error why) stop ∧
      stop ≤ n + 16 * (k + 1) := by
  have within : n ≤ R * r.length := by omega
  obtain ⟨result, taken, takes, filled⟩ := takes_fill byte slot left within
  cases filled with
  | whole _ same => exact absurd (same k inside) differs
  | @broken j _ _ same _ =>
    have first : ¬ k < j := fun less => differs (same k less)
    exact ⟨_, _, takes, by omega⟩
  | @cut j _ _ short same =>
    have first : ¬ k < j := fun less => differs (same k less)
    exact ⟨_, _, takes, by omega⟩

-- The length is noted at the pulse or at the end of all turns, whichever comes first.
theorem takes_length (format : Format) (minimum : Nat) (turns : 0 < R)
    (within : n ≤ R * r.length) :
    ∃ m, (length format minimum).Takes r R n
      (if minimum ≤ r.length then .ok r.length
        else .error (.tooShort format r.length minimum)) m := by
  have steady : seekIndex.Steady :=
    steady_seek (fun r m => decide (r.length < m) && (m - 1) % r.length == 0)
      (fun _ _ => Cursor.Stands.past_pulse) _
  obtain ⟨found, m, takes⟩ := steady r R n turns within
  refine ⟨m, fun c stands => ?_⟩
  have measured := stands.seek_index_measures turns
  have reached := (takes c stands).2
  refine ⟨?_, reached⟩
  change (if minimum ≤ c.seekIndex.2.measured then Except.ok c.seekIndex.2.measured
    else Except.error (Fault.tooShort format c.seekIndex.2.measured minimum)) = _
  rw [measured]

end Reader

namespace LongTrack

theorem marks_start (t : LongTrack) (listed : t ∈ all) {mark : Sync} (marked : t.mark = some mark) :
    mark.Proper ∧ mark.core.head? = some true := by
  have table : ∀ t ∈ all, ∀ mark ∈ t.mark, (mark.bits = 16 ∨ mark.bits = 32) ∧
      mark.value.toNat < 2 ^ mark.bits ∧ mark.core.head? = some true := by
    decide
  obtain ⟨width, fits, starts⟩ := table t listed mark marked
  exact ⟨⟨width, fits⟩, starts⟩

-- Bytes of the fill that a look reads. The byte that is captured is read before the run is.
def checked (t : LongTrack) : Nat :=
  match t.fill with
  | .fixed _ => t.repeats - 1
  | .captured => 1 + (t.repeats - 1)

def extent (t : LongTrack) : Nat := 16 * (t.signature.length + t.checked)

-- What must stand behind a mark when `n` cells are read.
structure Layout (t : LongTrack) (r : Revolution) (n : Nat) : Prop where
  signature : r.bytesFrom n t.signature.length = t.signature
  fill : ∃ byte, (t.fill = .captured ∨ t.fill = .fixed byte) ∧
    r.bytesFrom (n + 16 * t.signature.length) t.checked = List.replicate t.checked byte
  long : t.minimum.getD 0 ≤ r.length

variable {t : LongTrack} {r : Revolution} {R n : Nat}

theorem checks_signature (t : LongTrack) (within : n ≤ R * r.length) :
    t.readSignature.Checks r R n (16 * t.signature.length) fun _ =>
      r.bytesFrom n t.signature.length = t.signature := by
  unfold readSignature
  by_cases unsigned : t.signature = []
  · rw [unsigned]
    exact Reader.ends_pure fun _ => ⟨fun _ => ⟨rfl, within, rfl⟩, fun _ _ => rfl⟩
  · rw [if_neg (by simpa using unsigned)]
    have place : 16 * t.signature.length = 8 * (2 * t.signature.length) := by omega
    rw [place]
    by_cases room : n + 8 * (2 * t.signature.length) ≤ R * r.length
    · have decoded : Encoding.mfm.decodeBlock t.signature.length
          (r.octets n (2 * t.signature.length)) = r.bytesFrom n t.signature.length := by
        change dataBytes (List.take _ _) = _
        rw [List.take_of_length_le (by simp), octets_decoded]
      refine Reader.ends_bind (Reader.takes_bytes _ room) ?_
      dsimp only
      rw [decoded]
      split <;> rename_i signed
      · exact Reader.ends_pure fun _ => ⟨fun _ => ⟨rfl, room, signed⟩, fun _ _ => rfl⟩
      · exact Reader.ends_failed fun _ _ => signed
    · exact Reader.ends_bind (Reader.takes_no_bytes _ (Nat.lt_of_not_le room))
        (Reader.ends_failed fun more => absurd more room)

theorem takes_signature (room : n + 16 * t.signature.length ≤ R * r.length)
    (signed : r.bytesFrom n t.signature.length = t.signature) :
    t.readSignature.Takes r R n (.ok ()) (n + 16 * t.signature.length) :=
  Reader.checks_takes (checks_signature t (by omega)) room signed

theorem steady_signature (t : LongTrack) : t.readSignature.Steady :=
  fun _ _ _ _ within => Reader.steady_ends (checks_signature t within)

theorem checks_run (byte : UInt8) (count : Nat) (within : n ≤ R * r.length) :
    (do return (← Reader.fill count byte).map fun _ => byte :
      Reader (Except Flaw UInt8)).Checks r R n (16 * (count - 1)) fun other =>
        other = byte ∧ r.bytesFrom n (count - 1) = List.replicate (count - 1) byte := by
  obtain ⟨result, stop, takes, each⟩ := Reader.checks_fill byte (count - 1) 1 within
  obtain ⟨sound, complete⟩ := each ()
  refine Reader.ends_bind takes (Reader.ends_pure fun other => ⟨fun passed => ?_, ?_⟩)
  · cases result with
    | error why => cases passed
    | ok _ =>
      cases passed
      obtain ⟨place, room, filled⟩ := sound rfl
      exact ⟨place, room, rfl, filled⟩
  · rintro room ⟨rfl, filled⟩
    rw [complete room filled]
    rfl

theorem checks_read_fill (t : LongTrack) (within : n ≤ R * r.length) :
    t.readFill.Checks r R n (16 * t.checked) fun byte =>
      (t.fill = .captured ∨ t.fill = .fixed byte) ∧
        r.bytesFrom n t.checked = List.replicate t.checked byte := by
  unfold readFill checked
  cases t.fill with
  | fixed value =>
    obtain ⟨result, stop, takes, each⟩ := checks_run value t.repeats within
    refine Reader.ends_bind (Reader.takes_pure _)
      ⟨result, stop, takes, fun byte => ⟨fun passed => ?_, ?_⟩⟩
    · obtain ⟨place, room, rfl, filled⟩ := (each byte).1 passed
      exact ⟨place, room, .inr rfl, filled⟩
    · rintro room ⟨other | fixed, filled⟩
      · cases other
      · cases fixed
        exact (each value).2 room ⟨rfl, filled⟩
  | captured =>
    dsimp only
    by_cases first : n + 16 ≤ R * r.length
    · have place : n + 16 * (1 + (t.repeats - 1)) = n + 16 + 16 * (t.repeats - 1) := by omega
      obtain ⟨result, stop, takes, each⟩ := checks_run (r.byteAt n) t.repeats first
      rw [Nat.add_comm 1] at place ⊢
      refine Reader.ends_bind (Reader.takes_byte first)
        ⟨result, stop, takes, fun byte => ⟨fun passed => ?_, ?_⟩⟩
      · obtain ⟨stopped, room, rfl, filled⟩ := (each byte).1 passed
        refine ⟨stopped.trans place.symm, by omega, .inl rfl, ?_⟩
        rw [Revolution.bytesFrom, List.replicate_succ, filled]
      · rintro room ⟨-, filled⟩
        rw [Revolution.bytesFrom, List.replicate_succ, List.cons.injEq] at filled
        obtain ⟨rfl, filled⟩ := filled
        exact (each _).2 (by omega) ⟨rfl, filled⟩
    · exact Reader.ends_bind (Reader.takes_no_byte (Nat.lt_of_not_le first))
        (Reader.ends_failed fun more => absurd more (by omega))

theorem takes_read_fill (byte : UInt8) (room : n + 16 * t.checked ≤ R * r.length)
    (known : t.fill = .captured ∨ t.fill = .fixed byte)
    (filled : r.bytesFrom n t.checked = List.replicate t.checked byte) :
    t.readFill.Takes r R n (.ok byte) (n + 16 * t.checked) :=
  Reader.checks_takes (checks_read_fill t (by omega)) room ⟨known, filled⟩

theorem steady_read_fill (t : LongTrack) : t.readFill.Steady :=
  fun _ _ _ _ within => Reader.steady_ends (checks_read_fill t within)

-- Whether the length passes is a matter of the revolution alone.
theorem read_length_tells (t : LongTrack) (turns : 0 < R) (within : n ≤ R * r.length) :
    ∃ m, t.readLength.Takes r R n
      (if t.minimum.getD 0 ≤ r.length then .ok ()
        else .error (.tooShort t.format r.length (t.minimum.getD 0))) m := by
  unfold readLength
  cases t.minimum with
  | none =>
    rw [Option.getD_none, if_pos (Nat.zero_le _)]
    exact ⟨n, Reader.takes_pure _⟩
  | some minimum =>
    rw [Option.getD_some]
    obtain ⟨m, takes⟩ := Reader.takes_length t.format minimum turns within
    refine ⟨m, Reader.takes_bind takes ?_⟩
    split <;> exact Reader.takes_pure _

theorem takes_read_length (turns : 0 < R) (within : n ≤ R * r.length)
    (long : t.minimum.getD 0 ≤ r.length) : ∃ m, t.readLength.Takes r R n (.ok ()) m := by
  obtain ⟨m, takes⟩ := read_length_tells t turns within
  rw [if_pos long] at takes
  exact ⟨m, takes⟩

theorem ends_read_length (t : LongTrack) (turns : 0 < R) (within : n ≤ R * r.length) :
    t.readLength.Ends r R n fun result _ => result = .ok () → t.minimum.getD 0 ≤ r.length := by
  obtain ⟨m, takes⟩ := read_length_tells t turns within
  refine ⟨_, m, takes, fun passed => ?_⟩
  split at passed
  · assumption
  · cases passed

theorem steady_read_length (t : LongTrack) : t.readLength.Steady :=
  fun _ _ _ turns within => Reader.steady_ends (ends_read_length t turns within)

theorem steady_look (t : LongTrack) : t.look.Steady := by
  refine Reader.steady_bind (Reader.steady_start_of_last _) fun offset => ?_
  refine Reader.steady_bind (steady_signature t) fun signed => ?_
  split
  · exact Reader.steady_pure _
  · refine Reader.steady_bind (steady_read_fill t) fun filled => ?_
    split
    · exact Reader.steady_pure _
    · refine Reader.steady_bind (steady_read_length t) fun measured => ?_
      split <;> exact Reader.steady_pure _

theorem look_takes {offset : Nat} {byte : UInt8} (turns : 0 < R)
    (room : n + t.extent ≤ R * r.length)
    (asked : (Reader.asks (·.startOfLast t.markBits)).Takes r R n offset n)
    (signed : r.bytesFrom n t.signature.length = t.signature)
    (known : t.fill = .captured ∨ t.fill = .fixed byte)
    (filled : r.bytesFrom (n + 16 * t.signature.length) t.checked = List.replicate t.checked byte)
    (long : t.minimum.getD 0 ≤ r.length) :
    ∃ stop, t.look.Takes r R n (.accept (offset, t.dataOf byte)) stop := by
  rw [extent, Nat.mul_add, ← Nat.add_assoc] at room
  obtain ⟨stop, measured⟩ := takes_read_length (t := t) turns room long
  refine ⟨stop, Reader.takes_bind asked ?_⟩
  refine Reader.takes_bind (takes_signature (by omega) signed) ?_
  refine Reader.takes_bind (takes_read_fill byte room known filled) ?_
  exact Reader.takes_bind measured (Reader.takes_pure _)

theorem look_accepts (turns : 0 < R) (room : n + t.extent ≤ R * r.length) (layout : t.Layout r n) :
    t.look.Gives r R n fun finding => ∃ value, finding = .accept value := by
  obtain ⟨byte, known, filled⟩ := layout.fill
  obtain ⟨offset, asked⟩ := Reader.takes_start_of_last r R n t.markBits
  obtain ⟨stop, takes⟩ := look_takes turns room asked layout.signature known filled layout.long
  exact ⟨_, stop, takes, _, rfl⟩

theorem look_rejects {why : Flaw} {stop : Nat} (unsigned : t.signature = [])
    (within : n ≤ R * r.length) (broken : t.readFill.Takes r R n (.error why) stop) :
    t.look.Takes r R n (.reject why) stop := by
  obtain ⟨offset, asked⟩ := Reader.takes_start_of_last r R n t.markBits
  have signed : t.readSignature.Takes r R n (.ok ()) n := by
    have taken := takes_signature (t := t) (r := r) (R := R) (n := n)
    rw [unsigned] at taken
    exact taken (by simpa using within) rfl
  refine Reader.takes_bind asked ?_
  exact Reader.takes_bind signed (Reader.takes_bind broken (Reader.takes_pure _))

theorem look_breaks {k : Nat} (captured : t.fill = .captured) (unsigned : t.signature = [])
    (inside : k + 1 < t.repeats) (room : n + 16 * (k + 2) ≤ R * r.length)
    (differs : r.byteAt (n + 16 * (k + 1)) ≠ r.byteAt n) :
    ∃ why stop, t.look.Takes r R n (.reject why) stop ∧ stop ≤ n + 16 * (k + 2) := by
  have place : n + 16 * (k + 1) = n + 16 + 16 * k := by omega
  rw [place] at differs
  have checked : k < t.repeats - 1 := by omega
  obtain ⟨why, stop, broken, soon⟩ :=
    Reader.takes_broken_fill (R := R) 1 checked (by omega) differs
  have filled : t.readFill.Takes r R n (.error why) stop := by
    unfold readFill
    rw [captured]
    exact Reader.takes_bind (Reader.takes_byte (by omega))
      (Reader.takes_bind broken (Reader.takes_pure _))
  exact ⟨why, stop, look_rejects unsigned (by omega) filled, by omega⟩

theorem look_misses {byte : UInt8} {k : Nat} (fixed : t.fill = .fixed byte)
    (unsigned : t.signature = []) (inside : k + 1 < t.repeats)
    (room : n + 16 * (k + 1) ≤ R * r.length) (differs : r.byteAt (n + 16 * k) ≠ byte) :
    ∃ why stop, t.look.Takes r R n (.reject why) stop ∧ stop ≤ n + 16 * (k + 1) := by
  have checked : k < t.repeats - 1 := by omega
  obtain ⟨why, stop, broken, soon⟩ := Reader.takes_broken_fill (R := R) 1 checked room differs
  have filled : t.readFill.Takes r R n (.error why) stop := by
    unfold readFill
    rw [fixed]
    exact Reader.takes_bind (Reader.takes_pure _) (Reader.takes_bind broken (Reader.takes_pure _))
  exact ⟨why, stop, look_rejects unsigned (by omega) filled, soon⟩

-- What a look that accepts has read behind a mark with `n` cells read.
structure Shows (t : LongTrack) (r : Revolution) (R n : Nat) (byte : UInt8) : Prop where
  room : n + t.extent ≤ R * r.length
  signature : r.bytesFrom n t.signature.length = t.signature
  known : t.fill = .captured ∨ t.fill = .fixed byte
  fill : r.bytesFrom (n + 16 * t.signature.length) t.checked = List.replicate t.checked byte
  long : t.minimum.getD 0 ≤ r.length

def Reports (t : LongTrack) (r : Revolution) (R n : Nat) : Finding (Nat × List UInt8) → Prop
  | .accept (offset, data) =>
    (Reader.asks (·.startOfLast t.markBits)).Takes r R n offset n ∧
      ∃ byte, data = t.dataOf byte ∧ t.Shows r R n byte
  | .reject _ => True
  | .giveUp _ => True

theorem look_reports (turns : 0 < R) (within : n ≤ R * r.length) :
    t.look.Gives r R n (t.Reports r R n) := by
  obtain ⟨offset, asked⟩ := Reader.takes_start_of_last r R n t.markBits
  obtain ⟨signed, j, first, signs⟩ := checks_signature t within
  refine Reader.gives_bind asked (Reader.gives_bind first ?_)
  have reached := (Reader.takes_within first within).2
  cases signed with
  | error why => exact Reader.gives_pure trivial
  | ok _ =>
    obtain ⟨filled, k, second, fills⟩ := checks_read_fill t reached
    refine Reader.gives_bind second ?_
    have stopped := (Reader.takes_within second reached).2
    cases filled with
    | error why => exact Reader.gives_pure trivial
    | ok byte =>
      obtain ⟨measured, m, third, long⟩ := ends_read_length t turns stopped
      refine Reader.gives_bind third ?_
      cases measured with
      | error why => exact Reader.gives_pure trivial
      | ok _ =>
        obtain ⟨rfl, -, signature⟩ := (signs ()).1 rfl
        obtain ⟨rfl, -, known, fill⟩ := (fills byte).1 rfl
        have room : n + t.extent ≤ R * r.length := by
          rw [extent]
          omega
        exact Reader.gives_pure ⟨asked, byte, rfl, room, signature, known, fill, long rfl⟩

theorem look_gives_up (t : LongTrack) (turns : 0 < R) (within : n ≤ R * r.length) :
    t.look.Gives r R n fun finding => ∀ error, finding = .giveUp error →
      r.length < t.minimum.getD 0 ∧ error = .tooShort t.format r.length (t.minimum.getD 0) := by
  obtain ⟨offset, asked⟩ := Reader.takes_start_of_last r R n t.markBits
  obtain ⟨signed, j, first⟩ := steady_signature t r R n turns within
  refine Reader.gives_bind asked (Reader.gives_bind first ?_)
  have reached := (Reader.takes_within first within).2
  cases signed with
  | error why => exact Reader.gives_pure nofun
  | ok _ =>
    obtain ⟨filled, k, second⟩ := steady_read_fill t r R j turns reached
    refine Reader.gives_bind second ?_
    cases filled with
    | error why => exact Reader.gives_pure nofun
    | ok byte =>
      have stopped := (Reader.takes_within second reached).2
      obtain ⟨m, third⟩ := read_length_tells t turns stopped
      refine Reader.gives_bind third ?_
      by_cases long : t.minimum.getD 0 ≤ r.length
      · rw [if_pos long]
        exact Reader.gives_pure nofun
      · rw [if_neg long]
        refine Reader.gives_pure ?_
        rintro error ⟨⟩
        exact ⟨Nat.lt_of_not_le long, rfl⟩

theorem look_patient (turns : 0 < R) (within : n ≤ R * r.length)
    (long : t.minimum.getD 0 ≤ r.length) :
    t.look.Gives r R n fun finding => ∀ error, finding ≠ .giveUp error :=
  Reader.gives_imp (look_gives_up t turns within) fun _ short error gaveUp =>
    absurd long (Nat.not_le_of_lt (short error gaveUp).1)

section
variable {mark : Sync}

theorem decode_scans (marked : t.mark = some mark) (start : Track) (c : Cursor) :
    (t.codec.decode start).run c =
      (((scan t.format mark t.look).run c).1.map fun place => t.found start place.1 place.2,
        ((scan t.format mark t.look).run c).2) := by
  change (t.decode start).run c = _
  rw [decode, marked]
  rfl

theorem decoded_scan (marked : t.mark = some mark) (start : Track) (c : Cursor) :
    ((t.codec.decode start).run c).1.result = (fun place => t.found start place.1 place.2) <$>
      ((scan t.format mark t.look).run c).1.result := by
  rw [decode_scans marked]
  rfl

theorem outcome_scan (marked : t.mark = some mark) (start : Track) (r : Revolution) :
    t.codec.outcome start r = (fun place => t.found start place.1 place.2) <$>
      ((scan t.format mark t.look).run (Cursor.start r Cursor.defaultRevolutions)).1.result :=
  decoded_scan marked start _

theorem search_course (t : LongTrack) (mark : Sync) (r : Revolution) :
    Scan.Course t.format mark t.look r Cursor.defaultRevolutions 0
      ((scan t.format mark t.look).run (Cursor.start r Cursor.defaultRevolutions)).1.result :=
  Scan.loop_course t.format mark t.look (steady_look t) r _ 0 0 (by decide) [] _
    (Cursor.start_stands r _)

theorem outcome_settled {start : Track} {goal : Nat} {wanted : Nat × List UInt8 → Prop}
    (marked : t.mark = some mark) (ahead : 0 < goal) (seen : mark.seenAt r goal = true)
    (within : goal ≤ Cursor.defaultRevolutions * r.length)
    (each : ∀ m, 0 < m → m ≤ goal → mark.seenAt r m = true → ∃ finding stop,
      t.look.Takes r Cursor.defaultRevolutions m finding stop ∧ finding.Settles wanted goal stop) :
    ∃ value, wanted value ∧ t.codec.outcome start r = .ok (t.found start value.1 value.2) := by
  obtain ⟨value, holds, found⟩ := (search_course t mark r).settled ahead seen within each
  exact ⟨value, holds, by rw [outcome_scan marked, found]; rfl⟩

-- What is kept of a track without a mark.
def measuredAs (t : LongTrack) (start : Track) : Track :=
  { start with
    total := t.total.getD start.total, offset := t.total.getD start.total / 2, size := 0, data := [] }

theorem decode_measures (unmarked : t.mark = none) (start : Track) (c : Cursor) :
    (t.codec.decode start).run c = (t.measure start).run c := by
  change (t.decode start).run c = _
  rw [decode, unmarked]

theorem decoded_unmarked (unmarked : t.mark = none) (start : Track) (c : Cursor) :
    ((t.codec.decode start).run c).1.result =
      if t.minimum.getD 0 ≤ c.seekIndex.2.measured then .ok (t.measuredAs start)
      else .error (.tooShort t.format c.seekIndex.2.measured (t.minimum.getD 0)) := by
  have read : ((Reader.length t.format (t.minimum.getD 0)).run c).1 =
      if t.minimum.getD 0 ≤ c.seekIndex.2.measured then .ok c.seekIndex.2.measured
      else .error (.tooShort t.format c.seekIndex.2.measured (t.minimum.getD 0)) := rfl
  rw [decode_measures unmarked, measure, Reader.run_bind, read]
  by_cases long : t.minimum.getD 0 ≤ c.seekIndex.2.measured
  · rw [if_pos long, if_pos long]
    rfl
  · rw [if_neg long, if_neg long]
    rfl

theorem decoded_standing (unmarked : t.mark = none) (start : Track) {c : Cursor}
    (stands : c.Stands r R n) (turns : 0 < R) :
    ((t.codec.decode start).run c).1.result =
      if t.minimum.getD 0 ≤ r.length then .ok (t.measuredAs start)
      else .error (.tooShort t.format r.length (t.minimum.getD 0)) := by
  rw [decoded_unmarked unmarked, stands.seek_index_measures turns]

theorem decoded_measured (unmarked : t.mark = none) (start : Track) (r : Revolution) {R : Nat}
    (turns : 0 < R) :
    ((t.codec.decode start).run (Cursor.start r R)).1.result =
      if t.minimum.getD 0 ≤ r.length then .ok (t.measuredAs start)
      else .error (.tooShort t.format r.length (t.minimum.getD 0)) :=
  decoded_standing unmarked start (Cursor.start_stands r R) turns

theorem outcome_measured (unmarked : t.mark = none) (start : Track) (r : Revolution) :
    t.codec.outcome start r =
      if t.minimum.getD 0 ≤ r.length then
        .ok { start with
          total := t.total.getD start.total, offset := t.total.getD start.total / 2, size := 0,
          data := [] }
      else .error (.tooShort t.format r.length (t.minimum.getD 0)) :=
  decoded_measured unmarked start r (by decide)

theorem outcome_shown {start track : Track} (marked : t.mark = some mark)
    (found : t.codec.outcome start r = .ok track) :
    ∃ n byte, mark.seenAt r n = true ∧ t.Shows r Cursor.defaultRevolutions n byte ∧
      track.offset < r.length ∧ (track.offset + t.markBits) % r.length = n % r.length ∧
        track = t.found start track.offset (t.dataOf byte) := by
  have course := search_course t mark r
  rw [outcome_scan marked] at found
  generalize ((scan t.format mark t.look).run _).1.result = result at found course
  cases result with
  | error error => cases found
  | ok value =>
    cases found
    obtain ⟨m, stop, ahead, within, seen, accepts⟩ := course.found_at
    obtain ⟨asked, byte, data, shows⟩ :=
      Reader.gives_takes within (look_reports (by decide) within) accepts
    obtain ⟨c, stands⟩ := Cursor.Stands.at_every_place within
    have nonempty : 0 < r.length := by
      refine Nat.pos_of_ne_zero ?_
      rintro empty
      rw [empty, Nat.mul_zero] at within
      omega
    obtain ⟨small, same⟩ := stands.start_of_last_turn nonempty t.markBits
    have place : c.startOfLast t.markBits = value.1 := (asked c stands).1
    rw [place] at small same
    exact ⟨m, byte, seen, shows, small, same, congrArg (t.found start value.1) data⟩

theorem outcome_reports {start track : Track} (marked : t.mark = some mark)
    (found : t.codec.outcome start r = .ok track) :
    ∃ offset byte, offset < r.length ∧ track = t.found start offset (t.dataOf byte) := by
  obtain ⟨n, byte, -, -, small, -, fields⟩ := outcome_shown marked found
  exact ⟨track.offset, byte, small, fields⟩

end

end LongTrack

end FloppyTrack
