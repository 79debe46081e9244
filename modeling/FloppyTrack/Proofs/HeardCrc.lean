import FloppyTrack.Proofs.Tape

set_option autoImplicit false

namespace FloppyTrack

theorem Cursor.Reached.heard_since {c d : Cursor} {r : Revolution} {R : Nat}
    {answers : List (Option Bool)} (reached : c.Reached r R)
    (hears : c.restartCrc.Hears answers d) :
    d.read = c.read + (heard answers).length ∧
      heard answers = r.stretch c.read (heard answers).length := by
  obtain ⟨front, traced⟩ := reached.traced
  have all := traced.restart_crc.hears hears
  have before : c.read = (heard front).length := traced.stands.read
  have behind : d.read = (heard (front ++ answers)).length := all.stands.read
  have cells := all.heard
  rw [heard_append, List.length_append] at behind cells
  rw [Revolution.stretch_add, Nat.zero_add] at cells
  rw [before]
  exact ⟨behind, List.append_inj_right cells (by simp)⟩

-- The phase is counted from the restart alone, so the groups begin there and not at a pulse or at a call.
theorem crc_of_cells_heard {c : Cursor} {r : Revolution} {R : Nat} (reached : c.Reached r R)
    (later : List Cursor.Call) (once : Cursor.Call.restartCrc ∉ later) :
    (∃ answers, c.restartCrc.Hears answers (c.restartCrc.run later)) ∧
      ∀ answers, c.restartCrc.Hears answers (c.restartCrc.run later) →
        (c.restartCrc.run later).read = c.read + (Cursor.heard answers).length ∧
          Cursor.heard answers = r.stretch c.read (Cursor.heard answers).length ∧
          (c.restartCrc.run later).crc = Crc16.update 0xffff
            (cellBytes ((Cursor.heard answers).length / 16) (Cursor.heard answers)) := by
  have sums := (Cursor.restarted_sums reached.stands).reads (c.restartCrc.run_reads later once)
  refine ⟨⟨_, c.restartCrc.run_hears later⟩, fun answers hears => ?_⟩
  obtain ⟨read, cells⟩ := reached.heard_since hears
  have whole : 16 * ((Cursor.heard answers).length / 16) ≤ (Cursor.heard answers).length :=
    Nat.mul_div_le _ 16
  refine ⟨read, cells, ?_⟩
  rw [sums.crc, read, Nat.add_sub_cancel_left, bytes_from_cells r c.read whole, ← cells]
  rfl

def threeCells : Revolution := Revolution.ofBits [true, false, true]

-- The cells are read from the second one on. The calls part the byte in the middle, and the last of them runs
-- out of cells.
theorem crc_over_pulses :
    ((Cursor.start threeCells 6).run [.next]).Reached threeCells 6 ∧
      Cursor.Call.restartCrc ∉ [.bits 7, .next, .bytes 1, .bits 9] ∧
      (((Cursor.start threeCells 6).run [.next]).restartCrc.run
        [.bits 7, .next, .bytes 1, .bits 9]).crc = Crc16.update 0xffff [0xb6] := by
  have reached : ((Cursor.start threeCells 6).run [.next]).Reached threeCells 6 :=
    ⟨[], [.next], rfl⟩
  have once : Cursor.Call.restartCrc ∉ [.bits 7, .next, .bytes 1, .bits 9] := by simp
  obtain ⟨⟨answers, hears⟩, told⟩ := crc_of_cells_heard reached _ once
  obtain ⟨read, cells, crc⟩ := told answers hears
  have begun : ((Cursor.start threeCells 6).run [.next]).read = 1 := by decide
  have ended : (((Cursor.start threeCells 6).run [.next]).restartCrc.run
      [.bits 7, .next, .bytes 1, .bits 9]).read = 18 := by
    decide +kernel
  have count : (Cursor.heard answers).length = 17 := by omega
  have byte : cellBytes 1 (threeCells.stretch 1 17) = [0xb6] := by decide +kernel
  rw [begun, count] at cells
  rw [count, cells, byte] at crc
  exact ⟨reached, once, crc⟩

end FloppyTrack
