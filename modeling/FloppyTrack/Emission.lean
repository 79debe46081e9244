import FloppyTrack.Encoding
import FloppyTrack.Event
import FloppyTrack.Revolution

set_option autoImplicit false

namespace FloppyTrack

def nominalRate : Nat := 500

def turnMicros (bits : Nat) : Nat := bits * 1000 / nominalRate

structure Emission where
  total : Nat
  offset : Nat
  cells : Array Bool
deriving DecidableEq, Repr

namespace Emission

def start (total offset : Nat) : Emission := ⟨total, offset, #[]⟩

def size (e : Emission) : Nat := e.cells.size

def last (e : Emission) : Bool := e.cells.back?.getD false

def put (e : Emission) (bit : Bool) : Emission :=
  { e with cells := e.cells.push bit }

def clock (e : Emission) (bit : Bool) : Emission :=
  { e with cells := (e.cells.push (!(e.last || bit))).push bit }

def write (e : Emission) (encoding : Encoding) (bits : List Bool) : Emission :=
  match encoding with
  | .raw => bits.foldl put e
  | _ => bits.foldl clock e

def word (e : Emission) (encoding : Encoding) (n value : Nat) : Emission :=
  e.write encoding (encoding.wordBits n value)

def block (e : Emission) (encoding : Encoding) (data : List UInt8) : Emission :=
  e.write encoding (encoding.blockBits data)

-- Cells past the end are dropped, and what is left of the turn is filled with zeros in MFM.
def filled (e : Emission) : Array Bool :=
  let zeros := List.replicate ((e.total - e.size + 1) / 2) false
  (e.write .mfm zeros).cells.take e.total

def toRevolution (e : Emission) : Revolution :=
  Revolution.ofBits (e.filled.toList.rotateRight e.offset)

def events (e : Emission) : List Event :=
  if e.total = 0 then []
  else
    let kept := min e.size e.total
    let placed := Event.placed kept e.offset (e.total - kept)
    if e.total < e.size then [.overrun e.size e.total, placed] else [placed]

end Emission

end FloppyTrack
