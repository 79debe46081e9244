import FloppyTrack.Reader

set_option autoImplicit false

namespace FloppyTrack

inductive Finding (α : Type) where
  | accept (value : α)
  | reject (why : Flaw)
  | giveUp (error : Fault)

namespace Scan

-- The latest event comes first in the log.
def loop {α : Type} (format : Format) (mark : Sync) (look : Reader (Finding α))
    (candidates : Nat) (log : List Event) (c : Cursor) : Report α × Cursor :=
  match _ : c.seek (mark.isAt ·.word) with
  | (false, d) =>
    (⟨.error (.noMatch format), (.exhausted format candidates :: log).reverse⟩, d)
  | (true, d) =>
    let offset := d.startOfLast mark.bits
    match _ : look.run d with
    | (.accept value, e) =>
      (⟨.ok value, (.accepted format mark offset (candidates + 1) :: log).reverse⟩, e)
    | (.reject why, e) =>
      loop format mark look (candidates + 1) (.rejected format mark offset why :: log) e
    | (.giveUp error, e) => (⟨.error error, (.gaveUp format offset error :: log).reverse⟩, e)
termination_by c.remaining
decreasing_by
  rename_i sought looked
  have ahead := (look.forward d).remaining_le
  rw [looked] at ahead
  exact Nat.lt_of_le_of_lt ahead (Cursor.remaining_seek_lt sought)

theorem reaches_loop {α : Type} (format : Format) (mark : Sync) (look : Reader (Finding α))
    (candidates : Nat) (log : List Event) (c : Cursor) :
    c.Reaches (loop format mark look candidates log c).2 := by
  fun_induction loop format mark look candidates log c with
  | case1 candidates log c d sought => simpa [sought] using c.reaches_seek (mark.isAt ·.word)
  | case2 candidates log c d sought offset value e looked =>
    have first : c.Reaches d := by simpa [sought] using c.reaches_seek (mark.isAt ·.word)
    exact first.trans (by simpa [looked] using look.forward d)
  | case3 candidates log c d sought offset why e looked ih =>
    have first : c.Reaches d := by simpa [sought] using c.reaches_seek (mark.isAt ·.word)
    exact (first.trans (by simpa [looked] using look.forward d)).trans ih
  | case4 candidates log c d sought offset error e looked =>
    have first : c.Reaches d := by simpa [sought] using c.reaches_seek (mark.isAt ·.word)
    exact first.trans (by simpa [looked] using look.forward d)

end Scan

def scan {α : Type} (format : Format) (mark : Sync) (look : Reader (Finding α)) :
    Reader (Report α) :=
  ⟨Scan.loop format mark look 0 [], Scan.reaches_loop format mark look 0 []⟩

end FloppyTrack
