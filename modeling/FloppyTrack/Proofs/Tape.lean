import FloppyTrack.Reader
import FloppyTrack.Proofs.RunningCrc

set_option autoImplicit false

namespace FloppyTrack

namespace Cursor

-- Single reads with their answers. Restarting the CRC between them asks for no cell.
inductive Hears : Cursor → List (Option Bool) → Cursor → Prop
  | still (c : Cursor) : Hears c [] c
  | read {c d : Cursor} {answers : List (Option Bool)} (rest : Hears c.next.2 answers d) :
      Hears c (c.next.1 :: answers) d
  | restart {c d : Cursor} {answers : List (Option Bool)} (rest : Hears c.restartCrc answers d) :
      Hears c answers d

theorem Hears.trans {c d e : Cursor} {front back : List (Option Bool)} (first : c.Hears front d)
    (second : d.Hears back e) : c.Hears (front ++ back) e := by
  induction first with
  | still c => exact second
  | read _ ih => exact .read (ih second)
  | restart _ ih => exact .restart (ih second)

theorem Reads.hears {c d : Cursor} {answers : List (Option Bool)} (reads : c.Reads answers d) :
    c.Hears answers d := by
  induction reads with
  | none c => exact .still c
  | more _ ih => exact .read ih

def seekAnswers (stop : Cursor → Bool) (c : Cursor) : List (Option Bool) :=
  match _ : c.next with
  | (none, _) => [none]
  | (some bit, d) => some bit :: if stop d then [] else seekAnswers stop d
termination_by c.remaining
decreasing_by exact remaining_next_lt ‹_›

theorem reads_seek (stop : Cursor → Bool) (c : Cursor) :
    c.Reads (c.seekAnswers stop) (c.seek stop).2 := by
  fun_induction seek stop c with
  | case1 c d read =>
    rw [seekAnswers, read]
    exact .step read (.none d)
  | case2 c bit d read stopped =>
    rw [seekAnswers, read]
    exact .step read (by rw [if_pos stopped]; exact .none d)
  | case3 c bit d read goesOn ih =>
    rw [seekAnswers, read]
    exact .step read (by rwa [if_neg goesOn])

def holdsByte (byte : UInt8) (word : UInt32) : Bool := dataByte word.toUInt16 == byte

theorem reads_fill (byte : UInt8) (slot left : Nat) (c : Cursor) :
    c.Reads (groupAnswers 16 (holdsByte byte) left c)
      ((Reader.fillFrom byte slot left).run c).2 := by
  induction left generalizing slot c with
  | zero => exact .none c
  | succ left ih =>
    have first := c.reads_bits 16
    have found : Reader.byte?.run c =
        ((c.bits 16).1.map (dataByte ·.toUInt16), (c.bits 16).2) := rfl
    rw [Reader.fillFrom, Reader.run_bind, groupAnswers, found]
    rcases read : c.bits 16 with ⟨_ | word, d⟩ <;> rw [read] at first
    · exact first.trans (.none d)
    · refine first.trans ?_
      by_cases same : dataByte word.toUInt16 = byte
      · have goes : holdsByte byte word = true := beq_iff_eq.mpr same
        simp only [Option.map_some, same, goes, if_true]
        exact ih (slot + 1) d
      · have stops : ¬ holdsByte byte word = true := fun goes => same (beq_iff_eq.mp goes)
        simp only [Option.map_some, same, stops, if_false]
        exact .none d

inductive Call where
  | next
  | bits (n : Nat)
  | bytes (n : Nat)
  | index
  | candidate (mark : Sync)
  | sequence (count : Nat) (byte : UInt8)
  | length (format : Format) (minimum : Nat)
  | restartCrc

def after (c : Cursor) : Call → Cursor
  | .next => c.next.2
  | .bits n => (c.bits n).2
  | .bytes n => (c.bytes n).2
  | .index => c.seekIndex.2
  | .candidate mark => ((Reader.seekMark mark).run c).2
  | .sequence count byte => ((Reader.fill count byte).run c).2
  | .length format minimum => ((Reader.length format minimum).run c).2
  | .restartCrc => c.restartCrc

def run (c : Cursor) (calls : List Call) : Cursor := calls.foldl after c

-- Rounds of calls, each of which ends in a reset.
def rounds (c : Cursor) (before : List (List Call)) : Cursor :=
  before.foldl (fun c calls => (c.run calls).reset) c

-- What the single reads of a call answer, cell by cell.
def callAnswers (c : Cursor) : Call → List (Option Bool)
  | .next => [c.next.1]
  | .bits n => advanceAnswers n c
  | .bytes n => groupAnswers 8 (fun _ => true) n c
  | .index => c.seekAnswers isPastPulse
  | .candidate mark => c.seekAnswers (mark.isAt ·.word)
  | .sequence count byte => groupAnswers 16 (holdsByte byte) (count - 1) c
  | .length _ _ => c.seekAnswers isPastPulse
  | .restartCrc => []

def answers (c : Cursor) : List Call → List (Option Bool)
  | [] => []
  | call :: calls => c.callAnswers call ++ (c.after call).answers calls

theorem call_reads (c : Cursor) (call : Call) (other : call ≠ .restartCrc) :
    c.Reads (c.callAnswers call) (c.after call) := by
  cases call with
  | next => exact .more (.none _)
  | bits n => exact c.reads_bits n
  | bytes n => exact c.reads_bytes n
  | index => exact c.reads_seek isPastPulse
  | candidate mark => exact c.reads_seek (mark.isAt ·.word)
  | sequence count byte => exact c.reads_fill byte 1 (count - 1)
  | length format minimum => exact c.reads_seek isPastPulse
  | restartCrc => exact absurd rfl other

theorem run_reads (calls : List Call) (c : Cursor) (once : Call.restartCrc ∉ calls) :
    c.Reads (c.answers calls) (c.run calls) := by
  induction calls generalizing c with
  | nil => exact .none c
  | cons call calls ih =>
    rw [List.mem_cons, not_or] at once
    exact (c.call_reads call (Ne.symm once.1)).trans (ih (c.after call) once.2)

theorem call_hears (c : Cursor) (call : Call) : c.Hears (c.callAnswers call) (c.after call) := by
  by_cases restart : call = .restartCrc
  · subst restart
    exact .restart (.still _)
  · exact (c.call_reads call restart).hears

theorem run_hears (calls : List Call) (c : Cursor) : c.Hears (c.answers calls) (c.run calls) := by
  induction calls generalizing c with
  | nil => exact .still c
  | cons call calls ih => exact (c.call_hears call).trans (ih (c.after call))

theorem Hears.reset {c d : Cursor} {answers : List (Option Bool)} (heard : c.Hears answers d) :
    d.reset = c.reset := by
  induction heard with
  | still c => rfl
  | @read c d answers _ ih =>
    have same := c.reaches_next
    rw [ih, Cursor.reset, same.source, same.revolutions]
    rfl
  | restart _ ih => exact ih

theorem rounds_start (r : Revolution) (R : Nat) (before : List (List Call)) :
    (start r R).rounds before = start r R := by
  induction before with
  | nil => rfl
  | cons calls before ih =>
    have restarted : ((start r R).run calls).reset = start r R :=
      ((start r R).run_hears calls).reset
    rw [rounds, List.foldl_cons, restarted]
    exact ih

-- The cells among the answers, in the order in which they were read.
def heard (answers : List (Option Bool)) : List Bool := answers.filterMap id

-- A read was made with a whole revolution behind it.
def Lapped (r : Revolution) (answers : List (Option Bool)) : Prop :=
  ∃ front answer back, answers = front ++ answer :: back ∧ r.length ≤ (heard front).length

theorem heard_append (front back : List (Option Bool)) :
    heard (front ++ back) = heard front ++ heard back :=
  List.filterMap_append

theorem lapped_append (r : Revolution) (answers : List (Option Bool)) (answer : Option Bool) :
    Lapped r (answers ++ [answer]) ↔ Lapped r answers ∨ r.length ≤ (heard answers).length := by
  constructor
  · rintro ⟨front, other, back, same, lap⟩
    rcases List.eq_nil_or_concat back with rfl | ⟨body, last, rfl⟩
    · obtain ⟨rfl, -⟩ := List.append_inj_left' same rfl
      exact .inr lap
    · rw [List.concat_eq_append, ← List.cons_append, ← List.append_assoc] at same
      exact .inl ⟨front, other, body, List.append_inj_left' same rfl, lap⟩
  · rintro (⟨front, other, back, rfl, lap⟩ | lap)
    · exact ⟨front, other, back ++ [answer], by simp, lap⟩
    · exact ⟨answers, answer, [], rfl, lap⟩

-- Behind the pulse a read has already been made with the whole revolution heard.
theorem lapped_of_lt {r : Revolution} {answers : List (Option Bool)}
    (long : r.length < (heard answers).length) : Lapped r answers := by
  rcases List.eq_nil_or_concat answers with rfl | ⟨front, answer, rfl⟩
  · exact absurd long (Nat.not_lt_zero _)
  · rw [List.concat_eq_append] at long ⊢
    rw [heard_append, List.length_append] at long
    have one : (heard [answer]).length ≤ 1 := List.length_filterMap_le _ _
    exact (lapped_append r front answer).mpr (.inr (by omega))

-- What one read preserves.
structure Traced (c : Cursor) (r : Revolution) (R : Nat) (answers : List (Option Bool)) : Prop where
  stands : c.Stands r R (heard answers).length
  heard : heard answers = r.stretch 0 (Cursor.heard answers).length
  measured : Lapped r answers ∧ c.measured = r.length ∨ ¬ Lapped r answers ∧ c.measured = 0

variable {c d : Cursor} {r : Revolution} {R : Nat} {answers more : List (Option Bool)}

theorem start_traced (r : Revolution) (R : Nat) : (start r R).Traced r R [] := by
  refine ⟨start_stands r R, rfl, .inr ⟨?_, rfl⟩⟩
  rintro ⟨front, answer, back, same, -⟩
  exact List.append_ne_nil_of_right_ne_nil front (List.cons_ne_nil answer back) same.symm

theorem Traced.restart_crc (traced : c.Traced r R answers) : c.restartCrc.Traced r R answers :=
  ⟨traced.stands.restart_crc, traced.heard, traced.measured⟩

theorem Traced.measured_next (traced : c.Traced r R answers) (answer : Option Bool) :
    Lapped r (answers ++ [answer]) ∧ c.next.2.measured = r.length ∨
      ¬ Lapped r (answers ++ [answer]) ∧ c.next.2.measured = 0 := by
  have noted := traced.stands.measured_next
  rw [lapped_append]
  rcases traced.measured with ⟨lapped, measured⟩ | ⟨fresh, measured⟩
  · refine .inl ⟨.inl lapped, ?_⟩
    rw [noted, measured, ite_self]
  · rw [measured] at noted
    by_cases whole : r.length ≤ (Cursor.heard answers).length
    · have pulse : (Cursor.heard answers).length = r.length :=
        Nat.le_antisymm (Nat.le_of_not_lt fun long => fresh (lapped_of_lt long)) whole
      refine .inl ⟨.inr whole, ?_⟩
      rw [noted, pulse, Nat.mod_self]
      split <;> omega
    · have short : ¬ (0 < (Cursor.heard answers).length ∧
          (Cursor.heard answers).length % r.length = 0) := by
        rw [Nat.mod_eq_of_lt (Nat.lt_of_not_le whole)]
        omega
      exact .inr ⟨not_or.mpr ⟨fresh, whole⟩, by rw [noted, if_neg short]⟩

theorem Traced.next (traced : c.Traced r R answers) :
    c.next.2.Traced r R (answers ++ [c.next.1]) := by
  have measured := traced.measured_next c.next.1
  by_cases more : (Cursor.heard answers).length < R * r.length
  · obtain ⟨cell, stands⟩ := traced.stands.next_more more
    have longer : Cursor.heard (answers ++ [c.next.1]) =
        Cursor.heard answers ++ [r.replay (Cursor.heard answers).length] := by
      rw [heard_append, cell]
      rfl
    refine ⟨?_, ?_, measured⟩
    · rwa [longer, List.length_append]
    · rw [longer, List.length_append, List.length_singleton, Revolution.stretch_add,
        ← traced.heard, Nat.zero_add]
      rfl
  · have spent : (Cursor.heard answers).length = R * r.length :=
      Nat.le_antisymm traced.stands.within (Nat.le_of_not_lt more)
    have stands := traced.stands
    rw [spent] at stands
    obtain ⟨silent, still⟩ := stands.next_spent
    have same : Cursor.heard (answers ++ [c.next.1]) = Cursor.heard answers := by
      rw [heard_append, silent]
      exact List.append_nil _
    refine ⟨?_, ?_, measured⟩
    · rwa [same, spent]
    · rw [same]
      exact traced.heard

theorem Traced.hears (traced : c.Traced r R answers) (heard : c.Hears more d) :
    d.Traced r R (answers ++ more) := by
  induction heard generalizing answers with
  | still c =>
    rw [List.append_nil]
    exact traced
  | read _ ih =>
    have rest := ih traced.next
    rwa [List.append_assoc] at rest
  | restart _ ih => exact ih traced.restart_crc

-- A cursor that has given these answers since it was reset, as a tape on which `n` cells were read.
structure Follows (c : Cursor) (r : Revolution) (R n : Nat) (answers : List (Option Bool)) : Prop where
  count : (heard answers).length = n
  within : n ≤ R * r.length
  cells : ∀ k, k < n → (heard answers)[k]? = some (r.cell (k % r.length))
  word : Bits.ofNat 32 c.word.toNat = (List.replicate 32 false ++ heard answers).drop n
  sincePulse : c.sincePulse = if n = 0 then 0 else (n - 1) % r.length + 1
  startOfLast : ∀ bits, (c.startOfLast bits : Int) = ((n : Int) - bits) % r.length
  -- So the sum that it is taken from needs no more than 32 bits.
  fits : r.length < 2 ^ 31 → c.sincePulse + r.length < 2 ^ 32
  unmeasured : ¬ Lapped r answers → c.measured = 0
  measured : Lapped r answers → c.measured = r.length
  spent : c.isSpent = true ↔ n = R * r.length
  last : c.next.1 = none ↔ n = R * r.length
  stays : c.next.1 = none → c.next.2 = { c with measured := c.next.2.measured }

theorem Traced.follows (traced : c.Traced r R answers) (cells : 0 < r.length) :
    c.Follows r R (Cursor.heard answers).length answers := by
  have stands := traced.stands
  have spent : c.next.1 = none ↔ (Cursor.heard answers).length = R * r.length := by
    constructor
    · intro silent
      by_contra other
      rw [(stands.next_more (Nat.lt_of_le_of_ne stands.within other)).1] at silent
      cases silent
    · intro all
      rw [all] at stands
      exact stands.next_spent.1
  refine ⟨rfl, stands.within, ?_, ?_, stands.sincePulse, stands.start_of_last_back cells, ?_, ?_, ?_,
    stands.spent_iff cells, spent, c.next_keeps⟩
  · intro k early
    rw [traced.heard, List.getElem?_eq_getElem (by simpa using early)]
    simp [Revolution.stretch, Revolution.replay]
  · rw [stands.word, Revolution.latest_history, ← traced.heard]
  · intro short
    have since := stands.since_pulse_le
    omega
  · intro fresh
    rcases traced.measured with ⟨lapped, -⟩ | ⟨-, zero⟩
    · exact absurd lapped fresh
    · exact zero
  · intro lapped
    rcases traced.measured with ⟨-, whole⟩ | ⟨fresh, -⟩
    · exact whole
    · exact absurd lapped fresh

-- A cursor behind any calls, with resets anywhere between them.
def Reached (c : Cursor) (r : Revolution) (R : Nat) : Prop :=
  ∃ before calls, c = ((start r R).rounds before).run calls

theorem Reached.traced (reached : c.Reached r R) : ∃ answers, c.Traced r R answers := by
  obtain ⟨before, calls, rfl⟩ := reached
  rw [rounds_start]
  exact ⟨_, (start_traced r R).hears ((start r R).run_hears calls)⟩

theorem Reached.stands (reached : c.Reached r R) : c.Stands r R c.read := by
  obtain ⟨answers, traced⟩ := reached.traced
  have stands := traced.stands
  rwa [← stands.read] at stands

end Cursor

-- Resets may come anywhere; `calls` are those since the last one, and `n` counts the cells that their
-- single reads were answered with.
theorem cursor_follows (r : Revolution) (cells : 0 < r.length) (R : Nat)
    (before : List (List Cursor.Call)) (calls : List Cursor.Call) :
    (Cursor.start r R).rounds before = Cursor.start r R ∧
      ((Cursor.start r R).rounds before).Hears (((Cursor.start r R).rounds before).answers calls)
        (((Cursor.start r R).rounds before).run calls) ∧
      ∃ n, (((Cursor.start r R).rounds before).run calls).Follows r R n
        (((Cursor.start r R).rounds before).answers calls) := by
  have hears := (Cursor.start r R).run_hears calls
  refine ⟨Cursor.rounds_start r R before, ?_⟩
  rw [Cursor.rounds_start]
  exact ⟨hears, _, ((Cursor.start_traced r R).hears hears).follows cells⟩

-- A cursor that was read past the pulse of its first turn is reset, read to the end of the only turn that
-- a new start has left, and one read further, which measures it.
def lastRound : Cursor := (Cursor.start (Revolution.ofBits [true, false, true]) 1).rounds [[.bits 2, .index]]

def lastCalls : List Cursor.Call := [.next, .restartCrc, .sequence 1 0, .bits 2, .next]

theorem read_out_follows : 0 < (Revolution.ofBits [true, false, true]).length ∧
    lastRound = Cursor.start (Revolution.ofBits [true, false, true]) 1 ∧
    (lastRound.run lastCalls).Follows (Revolution.ofBits [true, false, true]) 1 3
      [some true, some false, some true, none] := by
  have length : 0 < (Revolution.ofBits [true, false, true]).length := by decide
  obtain ⟨reset, -, n, follows⟩ := cursor_follows _ length 1 [[.bits 2, .index]] lastCalls
  have answers : ((Cursor.start (Revolution.ofBits [true, false, true]) 1).rounds
      [[.bits 2, .index]]).answers lastCalls = [some true, some false, some true, none] := by
    decide +kernel
  rw [answers] at follows
  have count : 3 = n := follows.count
  rw [count]
  exact ⟨length, reset, follows⟩

end FloppyTrack
