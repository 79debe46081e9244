import FloppyTrack.Proofs.LongTrack.Acceptance
import FloppyTrack.Proofs.Misfits
import FloppyTrack.Proofs.Table

set_option autoImplicit false

namespace FloppyTrack

namespace Disk

inductive Answer where
  | decoded (track : Track)
  | identified (format : Option Format)
  | cleared
  | failed (fault : Fault)

inductive Answer.Idle : Answer → Prop
  | unidentified : Idle (.identified none)
  | failed (fault : Fault) : Idle (.failed fault)

def Call.track : Call → Nat
  | .decode n _ _ => n
  | .identify n _ _ => n
  | .clear n => n

def answer (disk : Disk) : Call → Answer
  | .decode n format source =>
    match (disk.decode n format source).1.result with
    | .ok track => .decoded track
    | .error fault => .failed fault
  | .identify n formats source =>
    match (disk.identify n formats source).1.result with
    | .ok found => .identified found
    | .error fault => .failed fault
  | .clear n =>
    match disk.clear n with
    | .ok _ => .cleared
    | .error fault => .failed fault

def answers (disk : Disk) : List Call → List Answer
  | [] => []
  | call :: calls => disk.answer call :: (disk.after call).answers calls

def replace (disk : Disk) (n : Nat) : Option Track → Disk
  | none => disk
  | some track => disk.set n track

-- All that a call does to a table of `size` entries, whatever they hold.
structure Call.Acts (call : Call) (size : Nat) (answer : Answer) (entry : Option Track) : Prop where
  answers : ∀ disk : Disk, disk.size = size → disk.answer call = answer
  leaves : ∀ disk : Disk, disk.size = size → disk.after call = disk.replace call.track entry
  keeps : answer.Idle → entry = none

section
variable {disk other : Disk}

@[simp] theorem set_size (disk : Disk) (n : Nat) (track : Track) : (disk.set n track).size = disk.size :=
  List.length_set

theorem decode_by_size (same : disk.size = other.size) (n : Nat) (format : Format)
    (source : Revolution) :
    (disk.decode n format source).1 = (other.decode n format source).1 := by
  unfold decode invalidTrack
  rw [same]
  split
  · cases format.codec with
    | error error => rfl
    | ok codec =>
      dsimp only
      cases (codec.recognise source).result with
      | error error => rfl
      | ok track => rfl
  · rfl

theorem identify_by_size (same : disk.size = other.size) (n : Nat) (formats : List Format)
    (source : Revolution) :
    (disk.identify n formats source).1.result = (other.identify n formats source).1.result := by
  unfold identify invalidTrack
  rw [same]
  split
  · induction formats with
    | nil => rfl
    | cons format formats ih =>
      have alike : (disk.decode n format source).1 = (other.decode n format source).1 :=
        decode_by_size same n format source
      rw [identifyAmong, identifyAmong]
      dsimp only
      cases decoded : (other.decode n format source).1.result with
      | ok track => rw [alike, decoded]
      | error error =>
        have failed : (disk.decode n format source).1.result = .error error := by rw [alike, decoded]
        rw [failed, failed_decode failed, failed_decode decoded]
        dsimp only
        split
        · exact ih
        · rfl
  · rfl

theorem decode_acts (size n : Nat) (format : Format) (source : Revolution) :
    ∃ answer entry, (Call.decode n format source).Acts size answer entry := by
  have blanks : (blank size).size = size := List.length_replicate
  have alike : ∀ disk : Disk, disk.size = size →
      (disk.decode n format source).1 = ((blank size).decode n format source).1 :=
    fun disk sized => decode_by_size (sized.trans blanks.symm) n format source
  cases decoded : ((blank size).decode n format source).1.result with
  | ok track =>
    refine ⟨.decoded track, some track, ?_, ?_, nofun⟩
    · intro disk sized
      rw [answer, alike disk sized, decoded]
    · intro disk sized
      rw [← alike disk sized] at decoded
      exact (accepted_decode decoded).choose_spec.2.2.2
  | error fault =>
    refine ⟨.failed fault, none, ?_, ?_, fun _ => rfl⟩
    · intro disk sized
      rw [answer, alike disk sized, decoded]
    · intro disk sized
      rw [← alike disk sized] at decoded
      exact failed_decode decoded

theorem identify_acts (size n : Nat) (formats : List Format) (source : Revolution) :
    ∃ answer entry, (Call.identify n formats source).Acts size answer entry := by
  have blanks : (blank size).size = size := List.length_replicate
  have alike : ∀ disk : Disk, disk.size = size → (disk.identify n formats source).1.result =
      ((blank size).identify n formats source).1.result :=
    fun disk sized => identify_by_size (sized.trans blanks.symm) n formats source
  rcases (blank size).identify_commits_or_keeps n formats source with
    ⟨format, track, found, decoded, -⟩ | ⟨unfound, -⟩
  · refine ⟨.identified (some format), some track, ?_, ?_, nofun⟩
    · intro disk sized
      rw [answer, alike disk sized, found]
    · intro disk sized
      rcases disk.identify_commits_or_keeps n formats source with
        ⟨again, committed, result, accepted, kept⟩ | ⟨never, -⟩
      · rw [alike disk sized, found] at result
        cases result
        rw [decode_by_size (sized.trans blanks.symm), decoded] at accepted
        cases accepted
        exact kept
      · exact absurd ((alike disk sized).trans found) (never format)
  · have kept : ∀ disk : Disk, disk.size = size → (disk.identify n formats source).2 = disk := by
      intro disk sized
      rcases disk.identify_commits_or_keeps n formats source with
        ⟨format, -, result, -, -⟩ | ⟨-, kept⟩
      · exact absurd ((alike disk sized).symm.trans result) (unfound format)
      · exact kept
    cases result : ((blank size).identify n formats source).1.result with
    | error fault =>
      refine ⟨.failed fault, none, ?_, kept, fun _ => rfl⟩
      intro disk sized
      rw [answer, alike disk sized, result]
    | ok found =>
      refine ⟨.identified found, none, ?_, kept, fun _ => rfl⟩
      intro disk sized
      rw [answer, alike disk sized, result]

theorem clear_acts (size n : Nat) :
    ∃ answer entry, (Call.clear n).Acts size answer entry := by
  by_cases within : n < size
  · refine ⟨.cleared, some .unformatted, ?_, ?_, nofun⟩ <;> rintro disk rfl
    · rw [answer, clear, if_pos within]
    · rw [after, clear, if_pos within]
      rfl
  · refine ⟨.failed (.invalidTrack n (size - 1)), none, ?_, ?_, fun _ => rfl⟩ <;> rintro disk rfl
    · rw [answer, clear, if_neg within]
      rfl
    · rw [after, clear, if_neg within]
      rfl

theorem call_acts (call : Call) (size : Nat) : ∃ answer entry, call.Acts size answer entry := by
  cases call with
  | decode n format source => exact decode_acts size n format source
  | identify n formats source => exact identify_acts size n formats source
  | clear n => exact clear_acts size n

theorem replace_size (disk : Disk) (n : Nat) (entry : Option Track) :
    (disk.replace n entry).size = disk.size := by
  cases entry with
  | none => rfl
  | some track => exact set_size disk n track

theorem replace_other (disk : Disk) {n i : Nat} (apart : n ≠ i) (entry : Option Track) :
    (disk.replace n entry).get? i = disk.get? i := by
  cases entry with
  | none => rfl
  | some track => exact List.getElem?_set_ne apart

theorem replace_comm (disk : Disk) {m n : Nat} (apart : m ≠ n) (first second : Option Track) :
    (disk.replace m first).replace n second = (disk.replace n second).replace m first := by
  cases first with
  | none => rfl
  | some track =>
    cases second with
    | none => rfl
    | some next => exact congrArg Disk.mk (List.set_comm track next apart)

theorem after_size (disk : Disk) (call : Call) : (disk.after call).size = disk.size := by
  obtain ⟨_, entry, acts⟩ := call_acts call disk.size
  rw [acts.leaves disk rfl, replace_size]

theorem after_other (disk : Disk) {call : Call} {i : Nat} (apart : call.track ≠ i) :
    (disk.after call).get? i = disk.get? i := by
  obtain ⟨_, entry, acts⟩ := call_acts call disk.size
  rw [acts.leaves disk rfl, replace_other disk apart]

theorem after_comm (disk : Disk) {a b : Call} (apart : a.track ≠ b.track) :
    (disk.after a).after b = (disk.after b).after a := by
  obtain ⟨_, first, actsA⟩ := call_acts a disk.size
  obtain ⟨_, second, actsB⟩ := call_acts b disk.size
  rw [actsB.leaves _ (disk.after_size a), actsA.leaves _ (disk.after_size b), actsA.leaves disk rfl,
    actsB.leaves disk rfl, replace_comm disk apart]

theorem idle_keeps (disk : Disk) {call : Call} (idle : (disk.answer call).Idle) :
    disk.after call = disk := by
  obtain ⟨_, entry, acts⟩ := call_acts call disk.size
  rw [acts.answers disk rfl] at idle
  rw [acts.leaves disk rfl, acts.keeps idle]
  rfl

theorem run_size (disk : Disk) (calls : List Call) : (disk.run calls).size = disk.size := by
  induction calls generalizing disk with
  | nil => rfl
  | cons call calls ih => exact (ih (disk.after call)).trans (disk.after_size call)

theorem run_other (disk : Disk) {calls : List Call} {i : Nat}
    (apart : ∀ call ∈ calls, call.track ≠ i) : (disk.run calls).get? i = disk.get? i := by
  induction calls generalizing disk with
  | nil => rfl
  | cons call calls ih =>
    have rest := ih (disk.after call) fun later member => apart later (List.mem_cons_of_mem _ member)
    exact rest.trans (disk.after_other (apart call List.mem_cons_self))

theorem run_after (disk : Disk) {call : Call} {calls : List Call}
    (apart : ∀ later ∈ calls, call.track ≠ later.track) :
    (disk.after call).run calls = (disk.run calls).after call := by
  induction calls generalizing disk with
  | nil => rfl
  | cons next calls ih =>
    have rest := ih (disk.after next) fun later member => apart later (List.mem_cons_of_mem _ member)
    have swapped := disk.after_comm (apart next List.mem_cons_self)
    change ((disk.after call).after next).run calls = ((disk.after next).run calls).after call
    rw [swapped, rest]

theorem runs_comm (disk : Disk) {first second : List Call}
    (apart : ∀ a ∈ first, ∀ b ∈ second, a.track ≠ b.track) :
    (disk.run first).run second = (disk.run second).run first := by
  induction first generalizing disk with
  | nil => rfl
  | cons call first ih =>
    have rest := ih (disk.after call) fun a member => apart a (List.mem_cons_of_mem _ member)
    have passed := disk.run_after (apart call List.mem_cons_self)
    change ((disk.after call).run first).run second = ((disk.run second).after call).run first
    rw [rest, passed]

theorem answers_by_size (calls : List Call) (same : disk.size = other.size) :
    disk.answers calls = other.answers calls := by
  induction calls generalizing disk other with
  | nil => rfl
  | cons call calls ih =>
    obtain ⟨answer, _, acts⟩ := call_acts call other.size
    have rest : (disk.after call).size = (other.after call).size := by
      rw [after_size, after_size, same]
    rw [answers, answers, ih rest, acts.answers disk same, acts.answers other rfl]

end

section
variable {disk : Disk} {n : Nat} {source : Revolution} {format : Format}

-- The format does not fit, which leaves it open whether another one does.
inductive Declines (disk : Disk) (n : Nat) (source : Revolution) (format : Format) : Prop
  | unmatched {other : Format}
      (failed : (disk.decode n format source).1.result = .error (.noMatch other))
  | short {other : Format} {measured minimum : Nat}
      (failed : (disk.decode n format source).1.result = .error (.tooShort other measured minimum))

theorem misfit_declines {fault : Fault}
    (failed : (disk.decode n format source).1.result = .error fault)
    (misfit : fault.isMisfit = true) : disk.Declines n source format := by
  cases fault with
  | noMatch other => exact .unmatched failed
  | tooShort other measured minimum => exact .short failed
  | file _ | invalidDump _ | invalidTrack _ _ | unknownFormat _ | unformatted _ => cases misfit

theorem Declines.misfit (declines : disk.Declines n source format) :
    ∃ fault, (disk.decode n format source).1.result = .error fault ∧ fault.isMisfit = true := by
  cases declines with
  | unmatched failed => exact ⟨_, failed, rfl⟩
  | short failed => exact ⟨_, failed, rfl⟩

theorem unlisted_codec (unlisted : format ∉ Catalog.formats) :
    format.codec = .error (.unknownFormat format.name) := by
  cases format with
  | unformatted => rfl
  | _ => exact absurd (by decide) unlisted

theorem unlisted_decode (within : n < disk.size) (unlisted : format ∉ Catalog.formats) :
    (disk.decode n format source).1.result = .error (.unknownFormat format.name) := by
  rw [decode, if_pos within, unlisted_codec unlisted]

theorem listed_decode (within : n < disk.size) (listed : format ∈ Catalog.formats) :
    (∃ track, (disk.decode n format source).1.result = .ok track) ∨
      disk.Declines n source format := by
  have known : ∃ codec, format.codec = .ok codec := by
    cases format with
    | unformatted => exact absurd listed (by decide)
    | _ => exact ⟨_, rfl⟩
  obtain ⟨codec, known⟩ := known
  cases recognised : codec.outcome (Track.new codec.format codec.geometry) source with
  | ok track => exact .inl ⟨track, (decode_accepts within known recognised).1⟩
  | error fault =>
    have misfit := Catalog.misfits codec (Format.codec_listed known).1 _ source recognised
    exact .inr (misfit_declines (decode_declines within known recognised) misfit)

theorem declined_passed {before : List Format} (within : n < disk.size)
    (declined : ∀ other ∈ before, disk.Declines n source other) (rest : List Format) :
    (disk.identify n (before ++ rest) source).1.result = (disk.identify n rest source).1.result ∧
      (disk.identify n (before ++ rest) source).2 = (disk.identify n rest source).2 := by
  induction before with
  | nil => exact ⟨rfl, rfl⟩
  | cons format before ih =>
    obtain ⟨fault, failed, misfit⟩ := (declined format List.mem_cons_self).misfit
    obtain ⟨result, kept⟩ := declined_skipped (before ++ rest) within failed misfit
    obtain ⟨later, left⟩ := ih fun other member => declined other (List.mem_cons_of_mem _ member)
    exact ⟨result.trans later, kept.trans left⟩

-- How an identification on a track of the disk ends, and that there is no other way.
structure Searches (disk : Disk) (n : Nat) (formats : List Format) (source : Revolution) : Prop where
  first : ∀ before format rest track, formats = before ++ format :: rest →
    (∀ other ∈ before, disk.Declines n source other) →
    (disk.decode n format source).1.result = .ok track →
      disk.Commits n formats source format track
  unlisted : ∀ before format rest, formats = before ++ format :: rest →
    (∀ other ∈ before, disk.Declines n source other) → format ∉ Catalog.formats →
      (disk.identify n formats source).1.result = .error (.unknownFormat format.name) ∧
        (disk.identify n formats source).2 = disk
  unmatched : (∀ other ∈ formats, disk.Declines n source other) →
    (disk.identify n formats source).1.result = .ok none ∧
      (disk.identify n formats source).2 = disk
  all : (∀ other ∈ formats, disk.Declines n source other) ∨
    ∃ before format rest, formats = before ++ format :: rest ∧
      (∀ other ∈ before, disk.Declines n source other) ∧
        ((∃ track, (disk.decode n format source).1.result = .ok track) ∨ format ∉ Catalog.formats)

theorem declined_or_first (within : n < disk.size) (formats : List Format) :
    (∀ other ∈ formats, disk.Declines n source other) ∨
      ∃ before format rest, formats = before ++ format :: rest ∧
        (∀ other ∈ before, disk.Declines n source other) ∧
          ((∃ track, (disk.decode n format source).1.result = .ok track) ∨
            format ∉ Catalog.formats) := by
  induction formats with
  | nil => exact .inl nofun
  | cons format formats ih =>
    by_cases listed : format ∈ Catalog.formats
    · rcases listed_decode within listed with accepted | declines
      · exact .inr ⟨[], format, formats, rfl, nofun, .inl accepted⟩
      · rcases ih with all | ⟨before, found, rest, rfl, declined, ends⟩
        · exact .inl (List.forall_mem_cons.mpr ⟨declines, all⟩)
        · exact .inr ⟨format :: before, found, rest, rfl,
            List.forall_mem_cons.mpr ⟨declines, declined⟩, ends⟩
    · exact .inr ⟨[], format, formats, rfl, nofun, .inr listed⟩

theorem identify_searches (within : n < disk.size) (formats : List Format) :
    disk.Searches n formats source where
  first := by
    rintro before format rest track rfl declined decoded
    obtain ⟨result, kept⟩ := declined_passed within declined (format :: rest)
    have found := accepted_first rest decoded
    exact ⟨result.trans found.result, kept.trans found.kept⟩
  unlisted := by
    rintro before format rest rfl declined unlisted
    obtain ⟨result, kept⟩ := declined_passed within declined (format :: rest)
    have failed : (disk.decode n format source).1.result = .error (.unknownFormat format.name) :=
      unlisted_decode within unlisted
    rw [result, kept, identify, if_pos within, identifyAmong]
    dsimp only
    rw [failed, failed_decode failed]
    exact ⟨rfl, rfl⟩
  unmatched := by
    intro declined
    obtain ⟨result, kept⟩ := declined_passed within declined []
    rw [List.append_nil] at result kept
    rw [result, kept, identify, if_pos within]
    exact ⟨rfl, rfl⟩
  all := declined_or_first within formats

theorem within_decode_fails {fault : Fault} (within : n < disk.size)
    (failed : (disk.decode n format source).1.result = .error fault) :
    fault.isMisfit = true ∨ fault = .unknownFormat format.name := by
  by_cases listed : format ∈ Catalog.formats
  · have ends : (∃ track, (disk.decode n format source).1.result = .ok track) ∨
        disk.Declines n source format :=
      listed_decode within listed
    rcases ends with ⟨track, decoded⟩ | declines
    · cases decoded.symm.trans failed
    · obtain ⟨other, result, misfit⟩ := declines.misfit
      cases result.symm.trans failed
      exact .inl misfit
  · rw [unlisted_decode within listed] at failed
    cases failed
    exact .inr rfl

-- A search among formats that all have a codec comes to an end.
theorem listed_identify {formats : List Format} (within : n < disk.size)
    (listed : ∀ format ∈ formats, format ∈ Catalog.formats) :
    ∃ found, (disk.identify n formats source).1.result = .ok found := by
  have searches : disk.Searches n formats source := identify_searches within formats
  obtain ⟨first, -, unmatched, all⟩ := searches
  rcases all with declined | ⟨before, format, rest, same, declined, ⟨track, decoded⟩ | unlisted⟩
  · exact ⟨_, (unmatched declined).1⟩
  · exact ⟨_, (first before format rest track same declined decoded).result⟩
  · refine absurd (listed format ?_) unlisted
    rw [same]
    exact List.mem_append_right _ List.mem_cons_self

end

end Disk

theorem calls_isolated (disk : Disk) :
    (∀ calls, (disk.run calls).size = disk.size ∧
      ∀ i, (i < disk.size → ∀ call ∈ calls, Disk.Call.track call ≠ i) →
        (disk.run calls).get? i = disk.get? i) ∧
    (∀ first second, (∀ a ∈ first, ∀ b ∈ second, Disk.Call.track a ≠ b.track) →
      (disk.run first).run second = (disk.run second).run first ∧
        (disk.run first).answers second = disk.answers second) ∧
    (∀ call, (disk.answer call).Idle → disk.after call = disk) ∧
    ∀ n formats source, n < disk.size → disk.Searches n formats source := by
  refine ⟨fun calls => ⟨disk.run_size calls, fun i apart => ?_⟩, fun first second apart => ?_,
    fun call idle => disk.idle_keeps idle, fun n formats source within =>
      Disk.identify_searches within formats⟩
  · by_cases within : i < disk.size
    · exact disk.run_other (apart within)
    · have missing : disk.get? i = none := List.getElem?_eq_none (Nat.le_of_not_lt within)
      have past : ¬ i < (disk.run calls).size := by rwa [disk.run_size]
      rw [missing]
      exact List.getElem?_eq_none (Nat.le_of_not_lt past)
  · exact ⟨disk.runs_comm apart, Disk.answers_by_size second (disk.run_size first)⟩

def edgeSearch : Disk.Call := .identify 1 [.rTypeA, .gremlin] (LongTrack.edgeTurn false)

def edgeEntry : Track := { Track.new .gremlin .none with offset := 151, total := 105500 }

-- One format declines before the next one is committed on track 1, and track 0 is cleared apart from it.
theorem edge_isolated :
    1 < (Disk.blank 2).size ∧ (∀ call ∈ [edgeSearch], call.track ≠ 0) ∧
      ((Disk.blank 2).run [edgeSearch]).get? 0 = (Disk.blank 2).get? 0 ∧
      (∀ a ∈ [edgeSearch], ∀ b ∈ [Disk.Call.clear 0, .clear 2], a.track ≠ b.track) ∧
      ((Disk.blank 2).run [edgeSearch]).run [.clear 0, .clear 2] =
        ((Disk.blank 2).run [.clear 0, .clear 2]).run [edgeSearch] ∧
      ((Disk.blank 2).answer (.clear 2)).Idle ∧
      (Disk.blank 2).after (.clear 2) = Disk.blank 2 ∧
      (Disk.blank 2).Declines 1 (LongTrack.edgeTurn false) .rTypeA ∧
      (Disk.blank 2).Commits 1 [.rTypeA, .gremlin] (LongTrack.edgeTurn false) .gremlin edgeEntry := by
  have missed : ((Disk.blank 2).decode 1 .rTypeA (LongTrack.edgeTurn false)).1.result =
      .error (.noMatch .rTypeA) := by
    decide +kernel
  have declined : (Disk.blank 2).Declines 1 (LongTrack.edgeTurn false) .rTypeA :=
    .unmatched missed
  have decoded : ((Disk.blank 2).decode 1 .gremlin (LongTrack.edgeTurn false)).1.result =
      .ok edgeEntry := by
    decide +kernel
  have other : ∀ call ∈ [edgeSearch], call.track ≠ 0 := by
    simp [edgeSearch, Disk.Call.track]
  have apart : ∀ a ∈ [edgeSearch], ∀ b ∈ [Disk.Call.clear 0, .clear 2], a.track ≠ b.track := by
    simp [edgeSearch, Disk.Call.track]
  have idle : ((Disk.blank 2).answer (.clear 2)).Idle := .failed (.invalidTrack 2 1)
  have within : 1 < (Disk.blank 2).size := by decide
  obtain ⟨frame, commute, keeps, search⟩ := calls_isolated (Disk.blank 2)
  have first := (search 1 [.rTypeA, .gremlin] (LongTrack.edgeTurn false) within).first
  refine ⟨within, other, (frame _).2 0 fun _ => other, apart, (commute _ _ apart).1, idle,
    keeps _ idle, declined, ?_⟩
  exact first [.rTypeA] .gremlin [] edgeEntry rfl (List.forall_mem_singleton.mpr declined) decoded

end FloppyTrack
