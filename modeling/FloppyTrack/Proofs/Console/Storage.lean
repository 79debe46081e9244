import FloppyTrack.Proofs.Console.Turns

set_option autoImplicit false

namespace FloppyTrack.Console

section
variable {σ : Type}

namespace Files

-- What reading at the path would give.
def content (files : Files (StateM σ)) (store : σ) (path : String) :
    Except FileFault (List UInt8) :=
  ((files.read path).run store).1

-- What was written at the path is read there, until something is written at a path of the same file.
structure Keeps (files : Files (StateM σ)) (path : String) (same : String → Prop) : Prop where
  written : ∀ bytes store after, (files.write path bytes).run store = (.ok (), after) →
    files.content after path = .ok bytes
  apart : ∀ other bytes store, ¬ same other →
    files.content ((files.write other bytes).run store).2 path = files.content store path
  unread : ∀ other store,
    files.content ((files.read other).run store).2 path = files.content store path

end Files

-- A line that saves at one of the paths.
def SavesTo (same : String → Prop) (line : String) : Prop :=
  ∃ word path args, wordsOf line = word :: path :: args ∧ verbOf word = some .save ∧ same path

variable {files : Files (StateM σ)}

namespace Session

theorem load_file_run (s : Session) (path : String) (store : σ) :
    (s.loadFile files path).run store =
      (s.opened path (files.content store path), ((files.read path).run store).2) := by
  rw [load_file_opens]
  rfl

theorem save_run {s : Session} {path : String} {cells : Revolution}
    (encoded : (s.disk.encode s.track).result = .ok cells) (args : List String) (store : σ) :
    (s.save files (path :: args)).run store =
      (s.saved path ((files.write path (Dump.render cells)).run store).1,
        ((files.write path (Dump.render cells)).run store).2) := by
  rw [save_encoded files encoded]
  rfl

variable {path : String} {same : String → Prop}

theorem load_frame (keeps : files.Keeps path same) (s : Session) (args : List String) (store : σ) :
    files.content ((s.load files args).run store).2 path = files.content store path := by
  unfold load
  split
  · rfl
  · rw [load_file_run]
    exact keeps.unread _ store
  · split
    · rw [load_file_run]
      exact keeps.unread _ store
    · rfl

theorem save_frame (keeps : files.Keeps path same) (s : Session) (args : List String)
    (others : ∀ other rest, args = other :: rest → ¬ same other) (store : σ) :
    files.content ((s.save files args).run store).2 path = files.content store path := by
  cases args with
  | nil => rfl
  | cons other args =>
    cases encoded : (s.disk.encode s.track).result with
    | error fault =>
      rw [save_unencoded files encoded]
      rfl
    | ok cells =>
      rw [save_run encoded]
      exact keeps.apart other _ store (others other args rfl)

theorem answer_frame (keeps : files.Keeps path same) (s : Session) {line : String}
    (other : ¬ SavesTo same line) (store : σ) :
    files.content ((s.answer files line).run store).2 path = files.content store path := by
  rw [answer_by_words]
  split
  · rfl
  · rename_i word args words
    split
    · rename_i verb known
      cases verb with
      | save =>
        refine save_frame keeps s args (fun elsewhere rest split leads => other ?_) store
        exact ⟨word, elsewhere, rest, by rw [words, split], known, leads⟩
      | load => exact load_frame keeps s args store
      | help | quit | track | info | types | decode | identify | protection | encode | verify | dump =>
        rfl
    · rfl

end Session

end

-- Files in memory, each at one path.
def memory : Files (StateM (List (String × List UInt8))) where
  read path := do return ((← get).lookup path).elim (.error .missing) .ok
  write path bytes := do
    modify fun entries => (path, bytes) :: entries
    return .ok ()

theorem memory_keeps (path : String) : memory.Keeps path fun other => other = path where
  written := by
    rintro bytes store after ⟨⟩
    rw [Files.content]
    exact congrArg (Option.elim · _ _) List.lookup_cons_self
  apart := by
    intro other bytes store differs
    have skipped : (path == other) = false := beq_false_of_ne (Ne.symm differs)
    refine congrArg (Option.elim · _ _) ?_
    exact List.lookup_cons.trans (by rw [skipped])
  unread _ _ := rfl

end FloppyTrack.Console
