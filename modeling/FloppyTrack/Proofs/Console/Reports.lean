import FloppyTrack.Proofs.Console.Complaints
import FloppyTrack.Proofs.Console.Sound
import FloppyTrack.Proofs.Isolation

set_option autoImplicit false

namespace FloppyTrack.Console

def unverified (fault : Fault) : String := "Regenerated track failed to decode: " ++ fault.message

-- A line that gives the fault as the cause of an error.
def Report (fault : Fault) (line : String) : Prop :=
  line = faultLine fault ∨ line = unverified fault

def Reply.Reports (reply : Reply) (fault : Fault) : Prop :=
  ∃ line ∈ reply.lines, Report fault line

section
variable {fault other : Fault} {line : String}

-- Another message differs in a letter from what that of an invalid track begins with.
theorem message_letter (fault : Fault) : (∃ n most, fault = .invalidTrack n most) ∨
    ∃ (i : Nat) (c d : Char), fault.message.toList[i]? = some c ∧
      "Invalid track ".toList[i]? = some d ∧ c ≠ d := by
  cases fault with
  | invalidTrack n most => exact .inl ⟨n, most, rfl⟩
  | file fault => exact .inr ⟨1, '/', 'n', letter_append rfl _, rfl, by decide⟩
  | invalidDump fault => exact .inr ⟨8, 'f', 't', letter_append rfl _, rfl, by decide⟩
  | unknownFormat name => exact .inr ⟨0, 'U', 'I', letter_append rfl _, rfl, by decide⟩
  | noMatch format =>
    exact .inr ⟨0, 'N', 'I', letter_append (letter_append rfl _) _, rfl, by decide⟩
  | tooShort format measured minimum =>
    have small : ∃ c, format.name.toList[0]? = some c ∧ c ≠ 'I' := by
      cases format <;> exact ⟨_, rfl, by decide⟩
    obtain ⟨c, opens, differs⟩ := small
    exact .inr ⟨0, c, 'I', letter_append opens _, rfl, differs⟩
  | unformatted n =>
    exact .inr ⟨0, 'T', 'I', letter_append (letter_append rfl _) _, rfl, by decide⟩

theorem invalid_track_message {n most : Nat}
    (same : fault.message = (Fault.invalidTrack n most).message) :
    ∃ i limit, fault = .invalidTrack i limit := by
  rcases message_letter fault with invalid | ⟨i, c, d, here, there, differ⟩
  · exact invalid
  · have front : (Fault.invalidTrack n most).message.toList[i]? = some d :=
      letter_append (letter_append (letter_append (letter_append there _) _) _) _
    rw [same, front] at here
    exact absurd (Option.some.inj here).symm differ

theorem report_complains (report : Report fault line) : Complaint line := by
  rcases report with rfl | rfl
  · exact .fault fault
  · exact .unverified fault

theorem fault_line_opens (fault : Fault) : (faultLine fault).toList[0]? = some 'E' :=
  letter_append rfl _

theorem unverified_opens (fault : Fault) : (unverified fault).toList[0]? = some 'R' :=
  letter_append rfl _

theorem opens_apart {a b : String} {c d : Char} (first : a.toList[0]? = some c)
    (second : b.toList[0]? = some d) (differ : c ≠ d) : a ≠ b := by
  rintro rfl
  exact differ (Option.some.inj (first.symm.trans second))

theorem report_message (report : Report fault line) (again : Report other line) :
    fault.message = other.message := by
  have apart : ∀ a b : Fault, faultLine a ≠ unverified b := fun a b =>
    opens_apart (fault_line_opens a) (unverified_opens b) (by decide)
  rcases report with rfl | rfl <;> rcases again with same | same
  · exact (String.append_right_inj _).mp same
  · exact absurd same (apart fault other)
  · exact absurd same.symm (apart other fault)
  · exact (String.append_right_inj _).mp same

-- A line that reports no fault.
def Clear (line : String) : Prop := ∀ fault, ¬ Report fault line

theorem clear_tells (tells : Tells line) : Clear line := fun _ report =>
  complaint_never_tells (report_complains report) tells

theorem clear_opening {c : Char} (opens : line.toList[0]? = some c) (other : c ∉ ['E', 'R']) :
    Clear line := by
  simp only [List.mem_cons, List.not_mem_nil, or_false, not_or] at other
  rintro fault (rfl | rfl)
  · exact opens_apart opens (fault_line_opens fault) other.1 rfl
  · exact opens_apart opens (unverified_opens fault) other.2 rfl

-- A number stands where the line about a failed decode goes on.
theorem clear_regenerated (n : Nat) (rest : String) :
    Clear ("Regenerated track " ++ toString n ++ (": " ++ rest)) := by
  have opens : ("Regenerated track " ++ toString n ++ (": " ++ rest)).toList[0]? = some 'R' :=
    letter_append (letter_append rfl _) _
  rintro fault (same | same)
  · exact opens_apart opens (fault_line_opens fault) (by decide) same
  · have parts : unverified fault =
        "Regenerated track " ++ ("failed to decode: " ++ fault.message) := by
      rw [← String.append_assoc]
      rfl
    rw [parts, String.append_assoc, String.append_right_inj] at same
    have behind := digits_dropped n (": " ++ rest)
    rw [same, String.toList_append, String.toList_append] at behind
    cases behind

end

-- Each line reports a fault of those allowed, or none.
def Reply.Faults (reply : Reply) (allowed : Fault → Prop) : Prop :=
  ∀ line ∈ reply.lines, Clear line ∨ ∃ fault, allowed fault ∧ Report fault line

section
variable {reply : Reply} {allowed : Fault → Prop}

theorem Reply.Faults.valid (faults : reply.Faults allowed)
    (valid : ∀ n most, ¬ allowed (.invalidTrack n most)) (n most : Nat) :
    ¬ reply.Reports (.invalidTrack n most) := by
  rintro ⟨line, member, report⟩
  rcases faults line member with clear | ⟨fault, held, other⟩
  · exact clear _ report
  · obtain ⟨i, limit, rfl⟩ := invalid_track_message (report_message other report)
    exact valid i limit held

theorem Reply.Faults.never (faults : reply.Faults fun _ => False) (fault : Fault) :
    ¬ reply.Reports fault := by
  rintro ⟨line, member, report⟩
  rcases faults line member with clear | ⟨_, held, _⟩
  · exact clear fault report
  · exact held

theorem clear_faults (clear : ∀ line ∈ reply.lines, Clear line) : reply.Faults allowed :=
  fun line member => .inl (clear line member)

theorem one_clear (s : Session) {line : String} (clear : Clear line) :
    (s.say [line]).Faults allowed :=
  clear_faults (List.forall_mem_singleton.mpr clear)

theorem one_fault (s : Session) {fault : Fault} (held : allowed fault) :
    (s.say [faultLine fault]).Faults allowed :=
  List.forall_mem_singleton.mpr (.inr ⟨fault, held, .inl rfl⟩)

theorem track_lines_clear (s : Session) (n : Nat) (track : Track) :
    (s.say (trackLines n track)).Faults allowed :=
  clear_faults fun line member => clear_tells (track_lines_tell n track line member)

end

-- What a decode as a track of the disk fails with.
def Unfit (fault : Fault) : Prop :=
  fault.isMisfit = true ∨ ∃ name, fault = .unknownFormat name

namespace Session

variable {s : Session}

theorem decode_faults (sound : s.Sound) (args : List String) :
    (s.decode args).Faults Unfit := by
  unfold decode
  split
  · exact one_clear s (clear_opening (c := 'U') rfl (by decide))
  · rename_i arg _
    split
    · rename_i fault unknown
      refine one_fault s (.inr ?_)
      unfold Format.parse at unknown
      dsimp only at unknown
      split at unknown
      · cases unknown
      · cases unknown
        exact ⟨_, rfl⟩
    · rename_i format _
      split
      · exact one_clear s (clear_opening (c := 'N') rfl (by decide))
      · dsimp only
        split
        · rename_i fault failed
          refine one_fault _ ?_
          exact (Disk.within_decode_fails sound.within failed).imp_right fun unknown => ⟨_, unknown⟩
        · exact track_lines_clear _ _ _

theorem identify_faults (sound : s.Sound) : s.identify.Faults fun _ => False := by
  unfold identify
  split
  · exact one_clear s (clear_opening (c := 'N') rfl (by decide))
  · rename_i cells _
    dsimp only
    have listed : ∀ format ∈ Catalog.trialOrder, format ∈ Catalog.formats := by decide
    have ends : ∃ found,
        (s.disk.identify s.track Catalog.trialOrder cells).1.result = .ok found :=
      Disk.listed_identify sound.within listed
    obtain ⟨found, result⟩ := ends
    rw [result]
    cases found with
    | none => exact one_clear _ (clear_opening (c := 'N') rfl (by decide))
    | some format =>
      dsimp only
      cases (s.disk.identify s.track Catalog.trialOrder cells).2.get? s.track with
      | none => exact clear_faults nofun
      | some track => exact track_lines_clear _ _ _

theorem encode_faults (sound : s.Sound) :
    (s.say s.encodeLines).Faults fun fault => fault = .unformatted s.track := by
  unfold encodeLines
  rcases sound.encodes with ⟨-, failed⟩ | ⟨track, codec, turn, -, holds⟩
  · rw [failed]
    exact one_fault s rfl
  · rw [holds.encoded]
    refine one_clear s ?_
    have line := clear_regenerated s.track
      (toString turn.length ++ " bitcells " ++ turnText turn.length)
    simp only [String.append_assoc] at line ⊢
    exact line

theorem verify_faults (sound : s.Sound) : (s.say s.verifyLines).Faults Unfit := by
  unfold verifyLines
  rcases sound.encodes with ⟨undecoded, -⟩ | ⟨track, codec, turn, decoded, holds⟩
  · rw [undecoded]
    exact one_clear s (clear_opening (letter_append (letter_append rfl _) _) (by decide))
  · rw [decoded]
    dsimp only
    rw [holds.encoded]
    dsimp only
    have within : s.track < (Disk.blank trackLimit).size := by
      rw [Disk.size, Disk.blank, List.length_replicate]
      exact sound.track
    split
    · rename_i fault failed
      refine List.forall_mem_singleton.mpr (.inr ⟨fault, ?_, .inr rfl⟩)
      exact (Disk.within_decode_fails within failed).imp_right fun unknown => ⟨_, unknown⟩
    · split
      · exact one_clear s (clear_opening (c := 'V') rfl (by decide))
      · exact clear_faults (List.forall_mem_cons.mpr
          ⟨clear_opening (c := 'M') rfl (by decide), fun line member =>
            clear_tells (track_lines_tell _ _ line member)⟩)

theorem save_faults {m : Type → Type} [Monad m] (files : Files m) (sound : s.Sound)
    (args : List String) :
    Replies files (fun reply => reply.Faults fun fault =>
      fault = .unformatted s.track ∨ ∃ file, fault = .file file) (s.save files args) := by
  cases args with
  | nil => exact .told _ (one_clear s (clear_opening (c := 'U') rfl (by decide)))
  | cons path args =>
    rcases sound.encodes with ⟨-, failed⟩ | ⟨track, codec, turn, -, holds⟩
    · rw [save_unencoded files failed]
      exact .told _ (one_fault s (.inl rfl))
    · rw [save_encoded files holds.encoded]
      refine .wrote path _ (s.saved path) fun done => ?_
      cases done with
      | error fault => exact one_fault s (.inr ⟨fault, rfl⟩)
      | ok done =>
        refine one_clear s (clear_opening (c := 'S') ?_ (by decide))
        exact letter_append (letter_append (letter_append rfl _) _) _

end Session

-- A line that regenerates no track.
def Refusal (n : Nat) (line : String) : Prop :=
  (∃ fault, line = faultLine fault) ∨ line = notDecoded n

def Reply.Refuses (reply : Reply) (n : Nat) : Prop :=
  ∃ line ∈ reply.lines, Refusal n line

theorem refusal_tells {n : Nat} {line : String} (tells : Tells line) : ¬ Refusal n line := by
  rintro (⟨fault, rfl⟩ | rfl)
  · exact complaint_never_tells (.fault fault) tells
  · exact complaint_never_tells (.notDecoded n) tells

theorem refusal_opening {n : Nat} {line : String} {c : Char} (opens : line.toList[0]? = some c)
    (other : c ∉ ['E', 'T']) : ¬ Refusal n line := by
  simp only [List.mem_cons, List.not_mem_nil, or_false, not_or] at other
  rintro (⟨fault, rfl⟩ | rfl)
  · exact opens_apart opens (fault_line_opens fault) other.1 rfl
  · have track : (notDecoded n).toList[0]? = some 'T' := letter_append (letter_append rfl _) _
    exact opens_apart opens track other.2 rfl

namespace Session

variable {s : Session}

theorem one_refused {n : Nat} {line : String} (refusal : Refusal n line) :
    (s.say [line]).Refuses n :=
  ⟨line, List.mem_singleton_self line, refusal⟩

theorem one_unrefused {n : Nat} {line : String} {c : Char} (opens : line.toList[0]? = some c)
    (other : c ∉ ['E', 'T']) : ¬ (s.say [line]).Refuses n := by
  rintro ⟨_, member, refusal⟩
  cases List.mem_singleton.mp member
  exact refusal_opening opens other refusal

theorem encode_refuses (sound : s.Sound) :
    (s.say s.encodeLines).Refuses s.track ↔ s.decoded? = none := by
  unfold encodeLines
  rcases sound.encodes with ⟨undecoded, failed⟩ | ⟨track, codec, turn, decoded, holds⟩
  · rw [failed, undecoded]
    exact iff_of_true (one_refused (.inl ⟨_, rfl⟩)) rfl
  · rw [holds.encoded, decoded]
    refine iff_of_false (one_unrefused (c := 'R') ?_ (by decide)) nofun
    simp only [String.append_assoc]
    exact letter_append rfl _

theorem verify_refuses (sound : s.Sound) :
    (s.say s.verifyLines).Refuses s.track ↔ s.decoded? = none := by
  unfold verifyLines
  rcases sound.encodes with ⟨undecoded, -⟩ | ⟨track, codec, turn, decoded, holds⟩
  · rw [undecoded]
    exact iff_of_true (one_refused (.inr rfl)) rfl
  · rw [decoded]
    dsimp only
    rw [holds.encoded]
    dsimp only
    refine iff_of_false ?_ nofun
    split
    · exact one_unrefused (letter_append rfl _) (by decide)
    · split
      · exact one_unrefused (c := 'V') rfl (by decide)
      · rintro ⟨line, member, refusal⟩
        rcases List.mem_cons.mp member with rfl | further
        · exact refusal_opening (c := 'M') rfl (by decide) refusal
        · exact refusal_tells (track_lines_tell _ _ line further) refusal

-- What the commands that work on a track never come to.
structure Replied (s : Session) (verb : Verb) (reply : Reply) : Prop where
  valid : verb ∈ [.decode, .identify, .encode, .verify, .save] →
    ∀ n most, ¬ reply.Reports (.invalidTrack n most)
  identified : verb = .identify → ∀ fault, ¬ reply.Reports fault
  regenerated : verb ∈ [.encode, .verify] → (reply.Refuses s.track ↔ s.decoded? = none)

theorem unfit_valid (n most : Nat) : ¬ Unfit (.invalidTrack n most) := by
  rintro (misfit | ⟨name, same⟩)
  · cases misfit
  · cases same

theorem perform_replied {m : Type → Type} [Monad m] (files : Files m) (sound : s.Sound)
    {word : String} {verb : Verb} (known : verbOf word = some verb) (args : List String) :
    Replies files (s.Replied verb) (s.perform files verb args) := by
  cases verb with
  | decode =>
    exact .told _ ⟨fun _ => (decode_faults sound args).valid unfit_valid, nofun, nofun⟩
  | identify =>
    have never := (identify_faults sound).never
    exact .told _ ⟨fun _ n most => never _, fun _ => never, nofun⟩
  | encode =>
    have faults := (encode_faults sound).valid nofun
    exact .told _ ⟨fun _ => faults, nofun, fun _ => encode_refuses sound⟩
  | verify =>
    have faults := (verify_faults sound).valid unfit_valid
    exact .told _ ⟨fun _ => faults, nofun, fun _ => verify_refuses sound⟩
  | save =>
    refine (save_faults files sound args).imp fun reply faults => ⟨fun _ => ?_, nofun, nofun⟩
    exact faults.valid fun n most allowed => allowed.elim nofun nofun
  | help | quit | load | track | info | types | protection | dump =>
    exact (perform_turns files word _ args known).imp fun _ _ => ⟨nofun, nofun, nofun⟩

end Session

end FloppyTrack.Console
