import FloppyTrack.Console.Session
import FloppyTrack.Proofs.Identify

set_option autoImplicit false

namespace FloppyTrack.Console

section
variable {m : Type → Type} [Monad m] {files : Files m} {p q : Reply → Prop}

-- One file is read or written at most, and `p` holds of the reply whatever comes of it.
inductive Replies (files : Files m) (p : Reply → Prop) : m Reply → Prop
  | told (reply : Reply) (holds : p reply) : Replies files p (pure reply)
  | read (path : String) (reply : Except FileFault (List UInt8) → Reply)
      (holds : ∀ got, p (reply got)) : Replies files p (do return reply (← files.read path))
  | wrote (path : String) (bytes : List UInt8) (reply : Except FileFault Unit → Reply)
      (holds : ∀ done, p (reply done)) : Replies files p (do return reply (← files.write path bytes))

theorem Replies.imp {x : m Reply} (replies : Replies files p x) (weaker : ∀ reply, p reply → q reply) :
    Replies files q x := by
  cases replies with
  | told reply holds => exact .told reply (weaker _ holds)
  | read path reply holds => exact .read path reply fun got => weaker _ (holds got)
  | wrote path bytes reply holds => exact .wrote path bytes reply fun done => weaker _ (holds done)

theorem Replies.run {σ : Type} {files : Files (StateM σ)} {x : StateM σ Reply}
    (replies : Replies files p x) (store : σ) : p (x.run store).1 := by
  cases replies with
  | told reply holds => exact holds
  | read path reply holds => exact holds _
  | wrote path bytes reply holds => exact holds _

end

def wordsOf (line : String) : List String :=
  CommandLine.words (String.ofList (Text.trim line.toList))

def verbOf (word : String) : Option Verb :=
  Verb.ofWord? (String.ofList (Text.lower word.toList))

-- The track that a line sets which loads a file, whether or not there is such a file.
def loadTrack? : List String → Option Nat
  | word :: _ :: arg :: _ => if verbOf word = some .load then trackNumber? arg else none
  | _ => none

namespace Session

def aimed (s : Session) (words : List String) : Session :=
  { s with track := (loadTrack? words).getD s.track }

-- What the line does besides: it tells something, moves to a track, loads a revolution, or decodes it.
inductive Turns (s : Session) (words : List String) : Reply → Prop
  | told (lines : List String) (quit : Bool) : Turns s words ⟨lines, s.aimed words, quit⟩
  | moved {word arg : String} {rest : List String} {n : Nat} (named : words = word :: arg :: rest)
      (number : trackNumber? arg = some n) :
      Turns s words ({ s with track := n }.say [s!"Current track: {n}"])
  | loaded {path : String} {bytes : List UInt8} {cells : Revolution}
      (parsed : Dump.parse bytes = .ok cells) :
      Turns s words ({ s.aimed words with filename := some path, cells := some cells }.say
        [s!"Loaded: {path} ({cells.length} bitcells) as track {(s.aimed words).track}"])
  | decoded {format : Format} {cells : Revolution} {track : Track} (held : s.cells = some cells)
      (found : (s.disk.decode s.track format cells).1.result = .ok track) :
      Turns s words ({ s with disk := s.disk.set s.track track }.say (trackLines s.track track))

variable {s : Session} {words : List String}

theorem aimed_none (unset : loadTrack? words = none) : s.aimed words = s := by
  rw [aimed, unset]
  rfl

theorem aimed_some {n : Nat} (set : loadTrack? words = some n) :
    s.aimed words = { s with track := n } := by
  rw [aimed, set]
  rfl

theorem said_turns (lines : List String) (quit : Bool) (unset : loadTrack? words = none) :
    s.Turns words ⟨lines, s, quit⟩ := by
  have told : s.Turns words ⟨lines, s.aimed words, quit⟩ := .told lines quit
  rwa [aimed_none unset] at told

theorem load_track_other {word : String} (args : List String) (other : verbOf word ≠ some .load) :
    loadTrack? (word :: args) = none := by
  unfold loadTrack?
  split
  · rename_i same
    cases same
    exact if_neg other
  · rfl

theorem set_track_turns (word : String) (args : List String)
    (unset : loadTrack? (word :: args) = none) : s.Turns (word :: args) (s.setTrack args) := by
  unfold setTrack
  split
  · exact said_turns _ _ unset
  · split <;> rename_i number
    · exact .moved rfl number
    · exact said_turns _ _ unset

theorem decode_turns (args : List String) (unset : loadTrack? words = none) :
    s.Turns words (s.decode args) := by
  unfold decode
  split
  · exact said_turns _ _ unset
  · split
    · exact said_turns _ _ unset
    · rename_i format _
      split
      · exact said_turns _ _ unset
      · rename_i cells held
        dsimp only
        cases found : (s.disk.decode s.track format cells).1.result with
        | error fault =>
          rw [Disk.failed_decode found]
          exact said_turns _ _ unset
        | ok track =>
          obtain ⟨-, -, -, -, kept⟩ := Disk.accepted_decode found
          rw [kept]
          exact .decoded held found

theorem identify_turns (unset : loadTrack? words = none) : s.Turns words s.identify := by
  unfold identify
  split
  · exact said_turns _ _ unset
  · rename_i cells held
    dsimp only
    rcases s.disk.identify_commits_or_keeps s.track Catalog.trialOrder cells with
      ⟨format, track, result, found, kept⟩ | ⟨unfound, kept⟩
    · obtain ⟨-, -, within, -, -⟩ := Disk.accepted_decode found
      have entry : (s.disk.set s.track track).get? s.track = some track := by
        rw [Disk.get?, Disk.set]
        exact List.getElem?_set_self within
      rw [result, kept]
      dsimp only
      rw [entry]
      exact .decoded held found
    · rw [kept]
      split
      · exact said_turns _ _ unset
      · exact said_turns _ _ unset
      · rename_i result
        exact absurd result (unfound _)

section
variable {m : Type → Type} [Monad m]

-- The reply when `got` comes of reading a file to load.
def opened (s : Session) (path : String) (got : Except FileFault (List UInt8)) : Reply :=
  match (got.mapError Fault.file).bind Dump.parse with
  | .error fault => s.say [faultLine fault]
  | .ok cells =>
    { s with filename := some path, cells := some cells }.say
      [s!"Loaded: {path} ({cells.length} bitcells) as track {s.track}"]

theorem load_file_opens (files : Files m) (s : Session) (path : String) :
    s.loadFile files path = (do return s.opened path (← files.read path)) := by
  refine congrArg (files.read path >>= ·) (funext fun got => ?_)
  unfold opened
  dsimp only
  cases (got.mapError Fault.file).bind Dump.parse <;> rfl

theorem load_file_replies (files : Files m) (s : Session) (path : String) {p : Reply → Prop}
    (holds : ∀ got, p (s.opened path got)) : Replies files p (s.loadFile files path) := by
  rw [load_file_opens]
  exact .read path (s.opened path) holds

-- Whatever comes of reading the file, the session is the one that the words aim at.
theorem opened_turns (s : Session) (words : List String) (path : String)
    (got : Except FileFault (List UInt8)) : s.Turns words ((s.aimed words).opened path got) := by
  unfold opened
  cases got with
  | error fault => exact .told _ _
  | ok bytes =>
    have parse : (Except.mapError Fault.file (.ok bytes)).bind Dump.parse = Dump.parse bytes := rfl
    rw [parse]
    cases parsed : Dump.parse bytes with
    | error fault => exact .told _ _
    | ok cells => exact .loaded parsed

theorem load_turns (files : Files m) (word : String) (args : List String)
    (load : verbOf word = some .load) :
    Replies files (s.Turns (word :: args)) (s.load files args) := by
  unfold Session.load
  split
  · exact .told _ (said_turns _ _ rfl)
  · rename_i path
    have unset : s.aimed [word, path] = s := aimed_none rfl
    refine load_file_replies files s path fun got => ?_
    have turns := s.opened_turns [word, path] path got
    rwa [unset] at turns
  · rename_i path arg rest
    have place : loadTrack? (word :: path :: arg :: rest) = trackNumber? arg := if_pos load
    split <;> rename_i number <;> rw [number] at place
    · rename_i n
      refine load_file_replies files _ path fun got => ?_
      have turns := s.opened_turns (word :: path :: arg :: rest) path got
      rwa [aimed_some place] at turns
    · exact .told _ (said_turns _ _ place)

-- The reply when `done` comes of writing the file.
def saved (s : Session) (path : String) : Except FileFault Unit → Reply
  | .error fault => s.say [faultLine (.file fault)]
  | .ok () => s.say [s!"Saved track {s.track} to {path}"]

theorem save_unencoded (files : Files m) {path : String} {fault : Fault}
    (failed : (s.disk.encode s.track).result = .error fault) (args : List String) :
    s.save files (path :: args) = pure (s.say [faultLine fault]) := by
  unfold save
  dsimp only
  rw [failed]

theorem save_encoded (files : Files m) {path : String} {cells : Revolution}
    (encoded : (s.disk.encode s.track).result = .ok cells) (args : List String) :
    s.save files (path :: args) =
      (do return s.saved path (← files.write path (Dump.render cells))) := by
  unfold save
  dsimp only
  rw [encoded]
  refine congrArg (files.write path (Dump.render cells) >>= ·) (funext fun done => ?_)
  cases done <;> rfl

theorem save_turns (files : Files m) (args : List String) (unset : loadTrack? words = none) :
    Replies files (s.Turns words) (s.save files args) := by
  cases args with
  | nil => exact .told _ (said_turns _ _ unset)
  | cons path args =>
    cases encoded : (s.disk.encode s.track).result with
    | error fault =>
      rw [save_unencoded files encoded]
      exact .told _ (said_turns _ _ unset)
    | ok cells =>
      rw [save_encoded files encoded]
      refine .wrote path _ (s.saved path) fun done => ?_
      cases done <;> exact said_turns _ _ unset

theorem perform_turns (files : Files m) (word : String) (verb : Verb) (args : List String)
    (known : verbOf word = some verb) :
    Replies files (s.Turns (word :: args)) (s.perform files verb args) := by
  by_cases load : verb = .load
  · subst load
    exact load_turns files word args known
  · have other : verbOf word ≠ some .load := by
      rw [known]
      exact fun same => load (Option.some.inj same)
    have unset := load_track_other args other
    cases verb with
    | load => exact absurd rfl load
    | save => exact save_turns files args unset
    | track => exact .told _ (set_track_turns word args unset)
    | decode => exact .told _ (decode_turns args unset)
    | identify => exact .told _ (identify_turns unset)
    | help | quit | info | types | protection | encode | verify | dump =>
      exact .told _ (said_turns _ _ unset)

theorem answer_by_words (files : Files m) (s : Session) (line : String) :
    s.answer files line =
      match wordsOf line with
      | [] => pure (s.say [])
      | word :: args =>
        match verbOf word with
        | some verb => s.perform files verb args
        | none => pure (s.say [unknownCommand (String.ofList (Text.lower word.toList))]) := by
  unfold answer wordsOf
  cases CommandLine.words (String.ofList (Text.trim line.toList)) with
  | nil => rfl
  | cons word args =>
    dsimp only
    unfold verbOf
    cases Verb.ofWord? (String.ofList (Text.lower word.toList)) <;> rfl

theorem answer_command (files : Files m) (s : Session)
    {line word : String} {args : List String} {verb : Verb} (words : wordsOf line = word :: args)
    (known : verbOf word = some verb) : s.answer files line = s.perform files verb args := by
  rw [answer_by_words, words]
  dsimp only
  rw [known]

theorem answer_turns (files : Files m) (s : Session) (line : String) :
    Replies files (s.Turns (wordsOf line)) (s.answer files line) := by
  rw [answer_by_words]
  split
  · rename_i words
    rw [words]
    exact .told _ (said_turns _ _ rfl)
  · rename_i word args words
    rw [words]
    split
    · rename_i verb known
      exact perform_turns files word verb args known
    · rename_i unknown
      have other : verbOf word ≠ some .load := by
        rw [unknown]
        nofun
      exact .told _ (said_turns _ _ (load_track_other args other))

end

end Session

end FloppyTrack.Console
