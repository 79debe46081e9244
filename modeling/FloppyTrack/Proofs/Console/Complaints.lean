import FloppyTrack.Proofs.Console.Storage

set_option autoImplicit false

namespace FloppyTrack.Console

-- The lines that tell of an error, of a wrong argument, or of something that is not there.
inductive Complaint : String → Prop
  | fault (fault : Fault) : Complaint (faultLine fault)
  | loadUsage : Complaint "Usage: load <path> [track]"
  | decodeUsage : Complaint "Usage: decode <type>"
  | saveUsage : Complaint "Usage: save <path>"
  | invalidNumber (arg : String) : Complaint ("Invalid track number: " ++ arg)
  | outOfRange : Complaint s!"Track must be 0-{trackLimit - 1}"
  | notLoaded : Complaint notLoaded
  | notDecoded (n : Nat) : Complaint (notDecoded n)
  | noData (n : Nat) : Complaint s!"Track {n} carries no data"
  | unknown (command : String) : Complaint (unknownCommand command)
  | unverified (fault : Fault) :
      Complaint ("Regenerated track failed to decode: " ++ fault.message)
  | mismatch : Complaint "Mismatch after regeneration:"
  | unidentified : Complaint "No known track format found"
  | unprotected : Complaint "No protection detected"

def Reply.Fails (reply : Reply) : Prop := ∃ line ∈ reply.lines, Complaint line

-- The first character behind the number in a line about a track.
def behindNumber (line : String) : Option Char :=
  ((line.toList.drop 6).dropWhile Char.isDigit).head?

-- How a line opens that tells of a change.
inductive Tells (line : String) : Prop
  | opening {c : Char} (opens : line.toList.head? = some c) (known : c ∈ ['C', 'L', ' '])
  | titled (opens : line.toList.head? = some 'T') (ends : behindNumber line = some ':')

theorem letter_append {front : String} {i : Nat} {c : Char} (letter : front.toList[i]? = some c)
    (back : String) : (front ++ back).toList[i]? = some c := by
  obtain ⟨within, -⟩ := List.getElem?_eq_some_iff.mp letter
  rw [String.toList_append, List.getElem?_append_left within, letter]

theorem opens_append {front : String} {c : Char} (opens : front.toList.head? = some c)
    (back : String) : (front ++ back).toList.head? = some c := by
  rw [List.head?_eq_getElem?] at opens ⊢
  exact letter_append opens back

theorem digits_dropped (n : Nat) (rest : String) :
    (toString n ++ rest).toList.dropWhile Char.isDigit = rest.toList.dropWhile Char.isDigit := by
  have digits : ∀ c ∈ (toString n).toList, c.isDigit = true := by
    intro c member
    rw [Nat.toString_eq_repr, Nat.toList_repr] at member
    exact Nat.isDigit_of_mem_toDigits (by decide) (by decide) member
  rw [String.toList_append, List.dropWhile_append_of_pos digits]

-- What stands behind the digits, whatever the number is.
theorem behind_number (n : Nat) (rest : String) :
    behindNumber ("Track " ++ toString n ++ rest) =
      (rest.toList.dropWhile Char.isDigit).head? := by
  have front : "Track ".toList.length = 6 := by decide
  rw [behindNumber, String.append_assoc, String.toList_append, List.drop_left' front, digits_dropped]

theorem complaint_opens {line : String} (complaint : Complaint line) :
    ∃ c, line.toList.head? = some c ∧
      (c ∈ ['E', 'U', 'I', 'N', 'R', 'M'] ∨ c = 'T' ∧ behindNumber line ≠ some ':') := by
  have track : "Track ".toList.head? = some 'T' := by decide
  cases complaint with
  | fault fault => exact ⟨'E', opens_append (by decide) _, .inl (by decide)⟩
  | loadUsage | decodeUsage | saveUsage => exact ⟨'U', by decide, .inl (by decide)⟩
  | invalidNumber arg => exact ⟨'I', opens_append (by decide) _, .inl (by decide)⟩
  | outOfRange => exact ⟨'T', by decide, .inr ⟨rfl, by decide⟩⟩
  | notLoaded | unidentified | unprotected => exact ⟨'N', by decide, .inl (by decide)⟩
  | notDecoded n =>
    refine ⟨'T', opens_append (opens_append track _) _, .inr ⟨rfl, ?_⟩⟩
    exact (behind_number n " is not decoded").trans_ne (by decide)
  | noData n =>
    refine ⟨'T', opens_append (opens_append track _) _, .inr ⟨rfl, ?_⟩⟩
    exact (behind_number n " carries no data").trans_ne (by decide)
  | unknown command =>
    exact ⟨'U', opens_append (opens_append (by decide) _) _, .inl (by decide)⟩
  | unverified fault => exact ⟨'R', opens_append (by decide) _, .inl (by decide)⟩
  | mismatch => exact ⟨'M', by decide, .inl (by decide)⟩

theorem complaint_never_tells {line : String} (complaint : Complaint line) : ¬ Tells line := by
  intro tells
  obtain ⟨c, opens, rest⟩ := complaint_opens complaint
  cases tells with
  | opening first known =>
    cases opens.symm.trans first
    simp only [List.mem_cons, List.not_mem_nil, or_false] at known
    rcases known with rfl | rfl | rfl <;>
      exact rest.elim (by decide) fun title => absurd title.1 (by decide)
  | titled first ends =>
    cases opens.symm.trans first
    rcases rest with other | ⟨-, differs⟩
    · exact absurd other (by decide)
    · exact differs ends

theorem tells_append {front : String} (c : Char) (opens : front.toList.head? = some c)
    (known : c ∈ ['C', 'L', ' ']) (back : String) : Tells (front ++ back) :=
  .opening (opens_append opens back) known

theorem indented_tells {front : String} (opens : front.toList.head? = some ' ') (back : String) :
    Tells (front ++ back) :=
  tells_append ' ' opens (by decide) back

theorem track_lines_tell (n : Nat) (track : Track) : ∀ line ∈ trackLines n track, Tells line := by
  have title : Tells (s!"Track {n}: " ++ track.format.description) := by
    refine .titled (opens_append (opens_append (opens_append (by decide) _) _) _) ?_
    have behind := behind_number n (": " ++ track.format.description)
    rw [← String.append_assoc] at behind
    refine behind.trans ?_
    rw [String.toList_append]
    rfl
  have total : Tells s!"  Total bits:  {track.total}" := indented_tells (by decide) _
  have offset : Tells s!"  Data offset: {track.offset}" := indented_tells (by decide) _
  have length : Tells s!"  Data length: {track.data.length}" := indented_tells (by decide) _
  have sectors : Tells (s!"  Sectors:     {track.goodCount}/{track.geometry.sectors} valid " ++
      s!"({track.geometry.sectorSize} bytes each)") := by
    simp only [String.append_assoc]
    exact indented_tells (by decide) _
  intro line member
  unfold trackLines at member
  split at member
  · rcases List.mem_append.mp member with four | more
    · simp only [List.mem_cons, List.not_mem_nil, or_false] at four
      rcases four with rfl | rfl | rfl | rfl
      · exact title
      · exact total
      · exact offset
      · exact length
    · split at more
      · cases more
      · cases List.mem_singleton.mp more
        exact sectors
  · cases List.mem_singleton.mp member
    exact title

namespace Session

variable {s : Session} {words : List String}

theorem turn_fails {reply : Reply} (turn : s.Turns words reply) (fails : reply.Fails) :
    reply.session = s.aimed words := by
  obtain ⟨line, member, complaint⟩ := fails
  have untold := complaint_never_tells complaint
  cases turn with
  | told lines quit => rfl
  | moved named number =>
    cases List.mem_singleton.mp member
    exact absurd (tells_append 'C' (by decide) (by decide) _) untold
  | loaded parsed =>
    cases List.mem_singleton.mp member
    refine absurd ?_ untold
    simp only [String.append_assoc]
    exact tells_append 'L' (by decide) (by decide) _
  | decoded held found => exact absurd (track_lines_tell _ _ line member) untold

end Session

theorem failed_line_keeps {m : Type → Type} [Monad m] (files : Files m) (s : Session)
    (line : String) :
    Replies files (fun reply => reply.Fails →
      (loadTrack? (wordsOf line) = none → reply.session = s) ∧
        ∀ n, loadTrack? (wordsOf line) = some n → reply.session = { s with track := n })
      (s.answer files line) := by
  refine (s.answer_turns files line).imp fun reply turn fails => ?_
  have left := Session.turn_fails turn fails
  exact ⟨fun unset => left.trans (Session.aimed_none unset),
    fun n set => left.trans (Session.aimed_some set)⟩

-- A decode of no known format, with the session at another track than the first.
def away : Session := { Session.start with track := 7 }

theorem unknown_format_keeps :
    loadTrack? (wordsOf "decode none") = none ∧
      ((away.answer memory "decode none").run []).1.Fails ∧
      ((away.answer memory "decode none").run []).1.session = away := by
  have unset : loadTrack? (wordsOf "decode none") = none := by decide +kernel
  have lines : ((away.answer memory "decode none").run []).1.lines =
      [faultLine (.unknownFormat "none")] := by
    decide +kernel
  have fails : ((away.answer memory "decode none").run []).1.Fails :=
    ⟨_, by rw [lines]; exact List.mem_singleton_self _, .fault _⟩
  exact ⟨unset, fails, (((failed_line_keeps memory away "decode none").run []) fails).1 unset⟩

-- There is no such file, and the line that asks for it has set the track.
theorem failed_load_moves :
    ((Session.start.answer memory "load x 5").run []).1.Fails ∧
      ((Session.start.answer memory "load x 5").run []).1.session.track = 5 ∧
      Session.start.track = 0 := by
  have reply : ((Session.start.answer memory "load x 5").run []).1 =
      { Session.start with track := 5 }.say [faultLine (.file .missing)] := by
    decide +kernel
  rw [reply]
  exact ⟨⟨_, List.mem_singleton_self _, .fault _⟩, rfl, rfl⟩

end FloppyTrack.Console
