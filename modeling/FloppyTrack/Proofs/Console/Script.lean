import FloppyTrack.Proofs.Console.Quoting
import FloppyTrack.Proofs.Console.Reports
import FloppyTrack.Proofs.LongTrack.Acceptance

set_option autoImplicit false

namespace FloppyTrack.Console

-- What there is between two lines: the session, and what the files are kept in.
structure State (σ : Type) where
  session : Session
  store : σ

namespace State

section
variable {σ : Type} (files : Files (StateM σ))

def start (store : σ) : State σ := ⟨Session.start, store⟩

-- Kept folded, so that no line is answered to find out whether two states are the same.
@[irreducible]
def outcome (state : State σ) (line : String) : Reply × σ :=
  (state.session.answer files line).run state.store

def replyTo (state : State σ) (line : String) : Reply := (state.outcome files line).1

def next (state : State σ) (line : String) : State σ :=
  ⟨(state.outcome files line).1.session, (state.outcome files line).2⟩

def runs (state : State σ) (script : List String) : State σ := script.foldl (next files) state

def told (state : State σ) (script : List String) : List String :=
  ((state.session.answerAll files script).run state.store).1

variable {files} {state : State σ}

theorem runs_cons (state : State σ) (line : String) (script : List String) :
    state.runs files (line :: script) = (state.next files line).runs files script := rfl

theorem reply_turns (state : State σ) (line : String) :
    state.session.Turns (wordsOf line) (state.replyTo files line) := by
  rw [replyTo, outcome]
  exact (state.session.answer_turns files line).run state.store

theorem next_sound (sound : state.session.Sound) (line : String) :
    (state.next files line).session.Sound :=
  Session.turn_sound sound (state.reply_turns line)

theorem runs_sound (script : List String) (state : State σ) (sound : state.session.Sound) :
    (state.runs files script).session.Sound := by
  induction script generalizing state with
  | nil => exact sound
  | cons line script ih => exact ih (state.next files line) (next_sound sound line)

theorem outcome_command (state : State σ) {line word : String} {args : List String} {verb : Verb}
    (words : wordsOf line = word :: args) (known : verbOf word = some verb) :
    state.outcome files line = (state.session.perform files verb args).run state.store := by
  rw [outcome, Session.answer_command files state.session words known]

theorem replied (sound : state.session.Sound) {line word : String} {args : List String} {verb : Verb}
    (words : wordsOf line = word :: args) (known : verbOf word = some verb) :
    state.session.Replied verb (state.replyTo files line) := by
  rw [replyTo, outcome_command state words known]
  exact (Session.perform_replied files sound known args).run state.store

theorem answer_all_cons {m : Type → Type} [Monad m] (files : Files m) (s : Session) (line : String)
    (script : List String) : s.answerAll files (line :: script) = (do
      let reply ← s.answer files line
      if reply.quit then return reply.lines
      else return reply.lines ++ (← reply.session.answerAll files script)) :=
  rfl

theorem told_after (reply : StateM σ Reply) (later : Reply → StateM σ (List String)) (store : σ) :
    ((do
      let first ← reply
      if first.quit then return first.lines
      else return first.lines ++ (← later first) : StateM σ (List String)).run store).1 =
      if (reply.run store).1.quit then (reply.run store).1.lines
      else (reply.run store).1.lines ++ ((later (reply.run store).1).run (reply.run store).2).1 := by
  rw [StateT.run_bind]
  dsimp only [bind]
  split <;> rfl

theorem told_nil (state : State σ) : state.told files [] = [farewell] := rfl

theorem told_first_or_later {typed line : String} {script : List String}
    (member : line ∈ state.told files (typed :: script)) :
    line ∈ (state.replyTo files typed).lines ∨ line ∈ (state.next files typed).told files script := by
  rw [told, answer_all_cons, told_after] at member
  simp only [told, next, replyTo, outcome]
  split at member
  · exact .inl member
  · exact List.mem_append.mp member

-- All that a session tells is told in reply to a line, at what the lines before it have come to.
theorem told_in_reply (script : List String) (state : State σ) {line : String}
    (member : line ∈ state.told files script) :
    line = farewell ∨ ∃ before typed rest, script = before ++ typed :: rest ∧
      line ∈ ((state.runs files before).replyTo files typed).lines := by
  induction script generalizing state with
  | nil =>
    rw [told_nil] at member
    exact .inl (List.mem_singleton.mp member)
  | cons typed script ih =>
    rcases told_first_or_later member with first | later
    · exact .inr ⟨[], typed, script, rfl, first⟩
    · refine (ih (state.next files typed) later).imp_right ?_
      rintro ⟨before, again, rest, rfl, said⟩
      exact ⟨typed :: before, again, rest, rfl, said⟩

end

section
variable {σ : Type} {files : Files (StateM σ)} {state : State σ} {path : String}

-- A save that tells of success has written the regenerated track.
theorem saved {line word : String} {args : List String} (sound : state.session.Sound)
    (words : wordsOf line = word :: path :: args) (known : verbOf word = some .save)
    (said : s!"Saved track {state.session.track} to {path}" ∈ (state.replyTo files line).lines) :
    ∃ track codec turn,
      state.session.disk.Holds state.session.track track codec turn ∧
        (files.write path (Dump.render turn)).run state.store =
          (.ok (), (state.next files line).store) := by
  have unfailed : ∀ fault, s!"Saved track {state.session.track} to {path}" ∉ [faultLine fault] := by
    intro fault member
    have opens : (s!"Saved track {state.session.track} to {path}").toList[0]? = some 'S' :=
      letter_append (letter_append (letter_append rfl _) _) _
    exact opens_apart opens (fault_line_opens fault) (by decide) (List.mem_singleton.mp member)
  have outcome : state.outcome files line =
      (state.session.save files (path :: args)).run state.store :=
    outcome_command state words known
  rw [replyTo] at said
  rcases sound.encodes with ⟨-, failed⟩ | ⟨track, codec, turn, -, holds⟩
  · rw [outcome, Session.save_unencoded files failed] at said
    exact absurd said (unfailed _)
  · refine ⟨track, codec, turn, holds, ?_⟩
    rw [next, outcome, Session.save_run holds.encoded]
    rw [outcome, Session.save_run holds.encoded] at said
    cases written : (files.write path (Dump.render turn)).run state.store with
    | mk done after =>
      rw [written] at said
      cases done with
      | error fault => exact absurd said (unfailed _)
      | ok done => rfl

variable {same : String → Prop}

theorem next_frame (keeps : files.Keeps path same) {line : String} (other : ¬ SavesTo same line)
    (state : State σ) :
    files.content (state.next files line).store path = files.content state.store path := by
  simp only [next, outcome]
  exact Session.answer_frame keeps state.session other state.store

theorem runs_frame (keeps : files.Keeps path same) (script : List String) (state : State σ)
    (others : ∀ line ∈ script, ¬ SavesTo same line) :
    files.content (state.runs files script).store path = files.content state.store path := by
  induction script generalizing state with
  | nil => rfl
  | cons line script ih =>
    obtain ⟨first, later⟩ := List.forall_mem_cons.mp others
    rw [runs_cons, ih _ later, next_frame keeps first]

theorem reloaded {turn : Revolution} (quotable : Quotable path)
    (held : files.content state.store path = .ok (Dump.render turn))
    (parsed : Dump.parse (Dump.render turn) = .ok turn) :
    (state.next files (loadLine path)).session =
      { state.session with filename := some path, cells := some turn } := by
  have known : verbOf "load" = some .load := by decide +kernel
  have load : state.session.perform files .load [path] = state.session.loadFile files path := rfl
  have parse : (Except.mapError Fault.file (.ok (Dump.render turn))).bind Dump.parse = .ok turn :=
    parsed
  rw [next, outcome_command state (load_words quotable) known, load, Session.load_file_run, held,
    Session.opened, parse]
  rfl

end

end State

theorem script_sound (script : List String) (σ : Type) (files : Files (StateM σ)) (store : σ) :
    let state := (State.start store).runs files script
    (state.session.track < 160 ∧ state.session.disk.size = 160 ∧
      (state.session.filename.isSome ↔ state.session.cells.isSome) ∧
      ∀ cells, state.session.cells = some cells → 0 < cells.length) ∧
    (∀ line word args verb, wordsOf line = word :: args → verbOf word = some verb →
      state.session.Replied verb (state.replyTo files line)) ∧
    (∀ told ∈ ((transcript files script).run store).1, told ∈ banner ∨ told = farewell ∨
      ∃ before line rest, script = before ++ line :: rest ∧
        told ∈ (((State.start store).runs files before).replyTo files line).lines) ∧
    ∀ path same, files.Keeps path same →
      ∀ line word args, wordsOf line = word :: path :: args → verbOf word = some .save →
        s!"Saved track {state.session.track} to {path}" ∈ (state.replyTo files line).lines →
          ∃ cells, (state.session.disk.encode state.session.track).result = .ok cells ∧
            ∀ between, (∀ other ∈ between, ¬ SavesTo same other) →
              let again := ((state.next files line).runs files between).next files (loadLine path)
              again.session.filename = some path ∧ again.session.cells = some cells := by
  intro state
  have sound : state.session.Sound :=
    State.runs_sound script (State.start store) Session.start_sound
  refine ⟨⟨sound.track, sound.disk.size, ?_, sound.filled⟩, ?_, ?_, ?_⟩
  · rw [sound.named]
  · intro line word args verb words known
    exact State.replied sound words known
  · intro told member
    rcases List.mem_append.mp member with first | later
    · exact .inl first
    · exact .inr (State.told_in_reply script (State.start store) later)
  · intro path same keeps line word args words known said
    obtain ⟨track, codec, turn, holds, written⟩ := State.saved sound words known said
    refine ⟨turn, holds.encoded, fun between others => ?_⟩
    have member : path ∈ wordsOf line := by
      rw [words]
      exact List.mem_cons_of_mem word List.mem_cons_self
    have held : files.content ((state.next files line).runs files between).store path =
        .ok (Dump.render turn) := by
      rw [State.runs_frame keeps between _ others]
      exact keeps.written _ _ _ written
    have loaded := State.reloaded (word_quotable member) held holds.reread
    intro again
    exact ⟨congrArg Session.filename loaded, congrArg Session.cells loaded⟩

-- A turn is loaded as track 7 and decoded, and the track is saved where words are parted.
def edgeState : State (List (String × List UInt8)) :=
  (State.start [("turn", Dump.render (LongTrack.edgeTurn false))]).runs memory
    ["load turn 7", "decode gremlin_longtrack"]

def spacedPath : String := "a b"

theorem edge_turn_reloaded :
    wordsOf "save \"a b\"" = ["save", spacedPath] ∧ verbOf "save" = some .save ∧
      s!"Saved track {edgeState.session.track} to {spacedPath}" ∈
        (edgeState.replyTo memory "save \"a b\"").lines ∧
      memory.Keeps spacedPath (fun other => other = spacedPath) ∧
      (∀ other ∈ ["load turn 9"], ¬ SavesTo (fun other => other = spacedPath) other) ∧
      edgeState.session.Replied .save (edgeState.replyTo memory "save \"a b\"") ∧
      ∃ cells, (edgeState.session.disk.encode edgeState.session.track).result = .ok cells ∧
        let again := ((edgeState.next memory "save \"a b\"").runs memory ["load turn 9"]).next memory
          (loadLine spacedPath)
        again.session.filename = some spacedPath ∧ again.session.cells = some cells := by
  have words : wordsOf "save \"a b\"" = ["save", spacedPath] := by decide +kernel
  have known : verbOf "save" = some .save := by decide +kernel
  have said : s!"Saved track {edgeState.session.track} to {spacedPath}" ∈
      (edgeState.replyTo memory "save \"a b\"").lines := by
    decide +kernel
  have others : ∀ other ∈ ["load turn 9"], ¬ SavesTo (fun other => other = spacedPath) other := by
    refine List.forall_mem_singleton.mpr ?_
    rintro ⟨word, other, args, loads, saves, -⟩
    have load : wordsOf "load turn 9" = ["load", "turn", "9"] := by decide +kernel
    rw [load] at loads
    cases loads
    revert saves
    decide +kernel
  have keeps := memory_keeps spacedPath
  obtain ⟨-, replied, -, reload⟩ :=
    script_sound ["load turn 7", "decode gremlin_longtrack"] _ memory
      [("turn", Dump.render (LongTrack.edgeTurn false))]
  obtain ⟨cells, encoded, loads⟩ := reload _ _ keeps _ _ _ words known said
  exact ⟨words, known, said, keeps, others, replied _ _ _ _ words known, cells, encoded,
    loads _ others⟩

end FloppyTrack.Console
