import FloppyTrack.Proofs.LongTrack
import FloppyTrack.Proofs.Tape

set_option autoImplicit false

namespace FloppyTrack

theorem Cursor.reached_stands (r : Revolution) (R : Nat) (before : List (List Call))
    (calls : List Call) : ∃ n, (((start r R).rounds before).run calls).Stands r R n :=
  ⟨_, Reached.stands ⟨before, calls, rfl⟩⟩

-- Resets may come anywhere; `calls` are those since the last one.
theorem length_measured (r : Revolution) {R : Nat} (turns : 0 < R)
    (before : List (List Cursor.Call)) (calls : List Cursor.Call) (format : Format) (minimum : Nat)
    (track : Track) :
    ((Reader.length format minimum).run (((Cursor.start r R).rounds before).run calls)).1 =
        (if minimum ≤ r.length then .ok r.length
          else .error (.tooShort format r.length minimum)) ∧
      ((LongTrack.empty.codec.decode track).run
          (((Cursor.start r R).rounds before).run calls)).1.result =
        if 105000 ≤ r.length then
          .ok { track with total := 110000, offset := 55000, size := 0, data := [] }
        else .error (.tooShort .empty r.length 105000) := by
  obtain ⟨n, stands⟩ := Cursor.reached_stands r R before calls
  obtain ⟨stop, takes⟩ := Reader.takes_length format minimum turns stands.within
  have unmarked : LongTrack.empty.mark = none := rfl
  have decoded := LongTrack.decoded_standing unmarked track stands turns
  have total : LongTrack.empty.total.getD track.total = 110000 := rfl
  rw [LongTrack.measuredAs, total] at decoded
  exact ⟨(takes _ stands).1, decoded⟩

-- The first turn is read to its last cell, so the pulse comes next and no length is noted yet.
theorem measured_at_pulse :
    0 < 2 ∧
      ((Reader.length .bat 3).run
        (((Cursor.start (Revolution.ofBits [true, false, true]) 2).rounds [[.index]]).run
          [.bits 3, .restartCrc])).1 = .ok 3 ∧
      ((LongTrack.empty.codec.decode .unformatted).run
        (((Cursor.start (Revolution.ofBits [true, false, true]) 2).rounds [[.index]]).run
          [.bits 3, .restartCrc])).1.result = .error (.tooShort .empty 3 105000) := by
  obtain ⟨measured, decoded⟩ := length_measured (Revolution.ofBits [true, false, true])
    (show 0 < 2 by decide) [[.index]] [.bits 3, .restartCrc] .bat 3 .unformatted
  have length : (Revolution.ofBits [true, false, true]).length = 3 := rfl
  rw [length] at measured decoded
  exact ⟨by decide, measured, decoded⟩

end FloppyTrack
