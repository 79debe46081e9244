import FloppyTrack.Cursor
import FloppyTrack.Event

set_option autoImplicit false

namespace FloppyTrack

-- A reader reads on and never goes back, so a search that calls one at every candidate ends because the cells
-- do.
structure Reader (α : Type) where
  run : Cursor → α × Cursor
  forward : ∀ c : Cursor, c.Reaches (run c).2

namespace Reader

instance : Monad Reader where
  pure a := ⟨fun c => (a, c), .refl⟩
  bind x f :=
    ⟨fun c => let (a, d) := x.run c; (f a).run d,
      fun c => (x.forward c).trans ((f _).forward _)⟩

@[simp] theorem run_bind {α β : Type} (x : Reader α) (f : α → Reader β) (c : Cursor) :
    (x >>= f).run c = (f (x.run c).1).run (x.run c).2 := rfl

def asks {α : Type} (f : Cursor → α) : Reader α := ⟨fun c => (f c, c), .refl⟩

def bits (n : Nat) : Reader (Option UInt32) := ⟨Cursor.bits n, Cursor.reaches_bits n⟩

def bytes? (n : Nat) : Reader (Option (List UInt8)) :=
  ⟨fun c =>
    let (bytes, d) := c.bytes n
    (if bytes.length = n then some bytes else none, d),
    Cursor.reaches_bytes n⟩

def restartCrc : Reader Unit := ⟨fun c => ((), c.restartCrc), Cursor.reaches_restart_crc⟩

def seekIndex : Reader Bool := ⟨Cursor.seekIndex, Cursor.reaches_seek _⟩

def seekMark (mark : Sync) : Reader Bool :=
  ⟨Cursor.seek (mark.isAt ·.word), Cursor.reaches_seek _⟩

def byte? : Reader (Option UInt8) := do
  return (← bits 16).map (dataByte ·.toUInt16)

def fillFrom (byte : UInt8) (slot : Nat) : Nat → Reader (Except Flaw Unit)
  | 0 => pure (.ok ())
  | left + 1 => do
    match ← byte? with
    | none => return .error (.pattern slot 0)
    | some found =>
      if found = byte then fillFrom byte (slot + 1) left
      else return .error (.pattern slot found)

-- The last slot is never read, so a run that ends in a damaged byte passes.
def fill (count : Nat) (byte : UInt8) : Reader (Except Flaw Unit) :=
  fillFrom byte 1 (count - 1)

-- Running out of cells measures the turn just as well, so what the search for the pulse tells does not
-- matter.
def length (format : Format) (minimum : Nat) : Reader (Except Fault Nat) := do
  let _ ← seekIndex
  let measured ← asks Cursor.measured
  return if minimum ≤ measured then .ok measured else .error (.tooShort format measured minimum)

end Reader

end FloppyTrack
