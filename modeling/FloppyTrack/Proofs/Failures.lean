import FloppyTrack.Proofs.InPlace
import FloppyTrack.Proofs.MoreTurns

set_option autoImplicit false

namespace FloppyTrack

-- Where a codec stands that failed, and why: no cell is left, or the turn is shorter than its table entry
-- demands.
inductive Codec.Fails (codec : Codec) (source : Revolution) (turns : Nat) (stop : Cursor) :
    Fault → Prop
  | exhausted (all : stop.read = turns * source.length) (spent : stop.isSpent = true) :
      Codec.Fails codec source turns stop (.noMatch codec.format)
  | short {t : LongTrack} {minimum : Nat} (listed : t ∈ LongTrack.all) (entry : codec = t.codec)
      (least : t.minimum = some minimum) (short : source.length < minimum) :
      Codec.Fails codec source turns stop (.tooShort codec.format source.length minimum)

section
variable {r : Revolution} {R : Nat}

theorem Codec.spent_fails (codec : Codec) (cells : 0 < r.length) {c : Cursor}
    (stands : c.Stands r R (R * r.length)) : codec.Fails r R c (.noMatch codec.format) := by
  exact .exhausted stands.read ((stands.spent_iff cells).mpr rfl)

theorem LongTrack.short_fails (t : LongTrack) (listed : t ∈ all) (c : Cursor)
    (short : r.length < t.minimum.getD 0) :
    t.codec.Fails r R c (.tooShort t.format r.length (t.minimum.getD 0)) := by
  cases least : t.minimum with
  | none =>
    rw [least] at short
    exact absurd short (Nat.not_lt_zero _)
  | some minimum =>
    rw [least] at short
    exact .short listed rfl least short

theorem Scan.search_fails {α : Type} {mark : Sync} {look : Reader (Finding α)} (codec : Codec)
    (steady : look.Steady) (cells : 0 < r.length) (turns : 0 < R)
    (gives : ∀ m stop error c, mark.seenAt r m = true → m ≤ R * r.length →
      look.Takes r R m (.giveUp error) stop → c.Stands r R stop → codec.Fails r R c error)
    {n : Nat} {c : Cursor} (stands : c.Stands r R n) {error : Fault}
    (failed : ((scan codec.format mark look).run c).1.result = .error error) :
    codec.Fails r R ((scan codec.format mark look).run c).2 error := by
  obtain ⟨stop, stopped, fails⟩ := loop_fails codec.format mark look steady
    (p := fun error stop => ∀ c, c.Stands r R stop → codec.Fails r R c error) turns
    (fun c => codec.spent_fails cells)
    (fun m stop error seen within takes c => gives m stop error c seen within takes) n 0 [] c stands
    failed
  exact fails _ stopped

theorem LongTrack.decode_fails (t : LongTrack) (listed : t ∈ all) (cells : 0 < r.length)
    (turns : 0 < R) (start : Track) {error : Fault}
    (failed : ((t.codec.decode start).run (Cursor.start r R)).1.result = .error error) :
    t.codec.Fails r R ((t.codec.decode start).run (Cursor.start r R)).2 error := by
  cases marked : t.mark with
  | none =>
    rw [decoded_measured marked start r turns] at failed
    split at failed
    · cases failed
    · rename_i short
      cases failed
      exact t.short_fails listed _ (Nat.lt_of_not_le short)
  | some mark =>
    rw [decode_scans marked] at failed ⊢
    refine Scan.search_fails t.codec (steady_look t) cells turns ?_ (Cursor.start_stands r R)
      (Except.error_of_map failed)
    intro m stop error c _ within takes _
    obtain ⟨short, rfl⟩ := Reader.gives_takes within (look_gives_up t turns within) takes error rfl
    exact t.short_fails listed c short

theorem KeyTrack.decode_fails (cells : 0 < r.length) (turns : 0 < R) (start : Track) {error : Fault}
    (failed : ((codec.decode start).run (Cursor.start r R)).1.result = .error error) :
    codec.Fails r R ((codec.decode start).run (Cursor.start r R)).2 error := by
  rcases led_or_unled r R with ⟨m, first, within⟩ | unseen
  · obtain ⟨c, stands, run⟩ := led_run start first within
    change ((decode start).run _).1.result = _ at failed
    change codec.Fails r R ((decode start).run _).2 error
    rw [run] at failed ⊢
    refine Scan.search_fails codec steady_look cells turns ?_ stands (Except.error_of_map failed)
    intro m stop error c _ within takes _
    exact absurd takes (look_decides within)
  · obtain ⟨result, stopped⟩ := unled_run start unseen
    cases result.symm.trans failed
    exact codec.spent_fails cells stopped

namespace RType

-- A look that gives up has read every cell, since with more turns it could go on.
theorem Variant.spent (v : Variant) (lasts : v.look.Lasts (· = .giveUp (.noMatch v.format)))
    (cells : 0 < r.length) (turns : 0 < R) {m stop : Nat} {error : Fault} (behind : mark.bits ≤ m)
    (within : m ≤ R * r.length) (takes : v.look.Takes r R m (.giveUp error) stop) :
    stop = R * r.length ∧ error = .noMatch v.format := by
  rcases lasts.longer turns (Nat.le_add_right R (m + 2 * v.count)) within takes with same | ended
  · have plenty : m + 2 * v.count ≤ (R + (m + 2 * v.count)) * r.length :=
      (Nat.le_add_left _ _).trans (Nat.le_mul_of_pos_right _ cells)
    have further := Nat.mul_le_mul_right r.length (Nat.le_add_right R (m + 2 * v.count))
    have judged := Reader.gives_takes (within.trans further) (v.judges r _ m cells behind) same
    exact absurd plenty (Nat.not_le_of_lt judged.2)
  · cases ended.2
    exact ⟨ended.1, rfl⟩

theorem Variant.search_fails (v : Variant) (codec : Codec) (same : codec.format = v.format)
    (lasts : v.look.Lasts (· = .giveUp (.noMatch v.format))) (cells : 0 < r.length) (turns : 0 < R)
    {error : Fault}
    (failed : ((scan codec.format mark v.look).run (Cursor.start r R)).1.result = .error error) :
    codec.Fails r R ((scan codec.format mark v.look).run (Cursor.start r R)).2 error := by
  refine Scan.search_fails codec v.steady cells turns ?_ (Cursor.start_stands r R) failed
  intro m stop error c seen within takes stands
  obtain ⟨rfl, rfl⟩ := v.spent lasts cells turns (mark_behind seen) within takes
  rw [← same]
  exact codec.spent_fails cells stands

theorem decode_A_fails (cells : 0 < r.length) (turns : 0 < R) (start : Track) {error : Fault}
    (failed : ((codecA.decode start).run (Cursor.start r R)).1.result = .error error) :
    codecA.Fails r R ((codecA.decode start).run (Cursor.start r R)).2 error := by
  rw [decoded_A] at failed
  exact variantA.search_fails codecA rfl lasts_A cells turns (Except.error_of_map failed)

theorem decode_B_fails (cells : 0 < r.length) (turns : 0 < R) (start : Track) {error : Fault}
    (failed : ((codecB.decode start).run (Cursor.start r R)).1.result = .error error) :
    codecB.Fails r R ((codecB.decode start).run (Cursor.start r R)).2 error := by
  rw [decoded_B] at failed
  exact variantB.search_fails codecB rfl lasts_B cells turns (Except.error_of_map failed)

end RType

end

theorem decode_fails_without_trace (codec : Codec) (listed : codec ∈ Catalog.codecs)
    (source : Revolution) (cells : 0 < source.length) (turns : Nat) (positive : 0 < turns)
    (start : Track) :
    (∃ data left stop,
      codec.fillIn.runIn start (Cursor.start source turns) = ((.ok data, left), stop) ∧
        ((codec.decode start).run (Cursor.start source turns)).1.result = .ok { left with data }) ∨
    (∃ fault stop,
      codec.fillIn.runIn start (Cursor.start source turns) = ((.error fault, start), stop) ∧
        ((codec.decode start).run (Cursor.start source turns)).1.result = .error fault ∧
        codec.Fails source turns stop fault) := by
  have fails : ∀ fault,
      ((codec.decode start).run (Cursor.start source turns)).1.result = .error fault →
        codec.Fails source turns ((codec.decode start).run (Cursor.start source turns)).2 fault := by
    refine Catalog.codec_cases (p := fun codec => ∀ fault,
      ((codec.decode start).run (Cursor.start source turns)).1.result = .error fault →
        codec.Fails source turns ((codec.decode start).run (Cursor.start source turns)).2 fault)
      ?_ ?_ ?_ ?_ codec listed
    · exact fun t member _ => t.decode_fails member cells positive start
    · exact fun _ => KeyTrack.decode_fails cells positive start
    · exact fun _ => RType.decode_A_fails cells positive start
    · exact fun _ => RType.decode_B_fails cells positive start
  have run := codec.fill_in_run listed start (Cursor.start source turns)
  cases decoded : ((codec.decode start).run (Cursor.start source turns)).1.result with
  | ok track =>
    rw [decoded] at run
    exact .inl ⟨_, _, _, run, rfl⟩
  | error fault =>
    rw [decoded] at run
    exact .inr ⟨fault, _, run, rfl, fails fault decoded⟩

-- The mark of the variants with nothing behind it, so that the look at it runs out of cells.
def cutTurn : Revolution := Revolution.ofBits (Bits.ofNat 16 0x9521)

theorem cut_turn_missed :
    ((RType.codecA.decode KeyTrack.markedBlock).run (Cursor.start cutTurn 1)).1.result =
      .error (.noMatch .rTypeA) := by
  decide +kernel

theorem cut_turn_fails :
    RType.codecA ∈ Catalog.codecs ∧ 0 < cutTurn.length ∧ 0 < 1 ∧
      ∃ fault stop,
        RType.codecA.fillIn.runIn KeyTrack.markedBlock (Cursor.start cutTurn 1) =
            ((.error fault, KeyTrack.markedBlock), stop) ∧
          ((RType.codecA.decode KeyTrack.markedBlock).run (Cursor.start cutTurn 1)).1.result =
            .error fault ∧
          RType.codecA.Fails cutTurn 1 stop fault := by
  have listed : RType.codecA ∈ Catalog.codecs := by simp [Catalog.codecs, Catalog.rTypes]
  have cells : 0 < cutTurn.length := by decide
  refine ⟨listed, cells, Nat.one_pos, ?_⟩
  rcases decode_fails_without_trace RType.codecA listed cutTurn cells 1 Nat.one_pos
    KeyTrack.markedBlock with ⟨data, left, stop, -, decoded⟩ | fails
  · cases cut_turn_missed.symm.trans decoded
  · exact fails

end FloppyTrack
