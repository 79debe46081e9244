import FloppyTrack.Bits

set_option autoImplicit false

namespace FloppyTrack

structure Revolution where
  bytes : Array UInt8
  length : Nat
deriving DecidableEq, Repr

namespace Revolution

def empty : Revolution := ⟨#[], 0⟩

def isEmpty (r : Revolution) : Bool := r.length == 0

def get? (r : Revolution) (i : Nat) : Option Bool :=
  if i < r.length then some ((r.bytes.getD (i / 8) 0).toNat.testBit (7 - i % 8)) else none

def cell (r : Revolution) (i : Nat) : Bool :=
  (r.get? i).getD false

def toList (r : Revolution) : List Bool :=
  (List.range r.length).map r.cell

def cellMask (i : Nat) : UInt8 := 0x80 >>> UInt8.ofNat (i % 8)

def push (r : Revolution) (bit : Bool) : Revolution :=
  let bytes := if r.length / 8 = r.bytes.size then r.bytes.push 0 else r.bytes
  let bytes := if bit then bytes.modify (r.length / 8) (· ||| cellMask r.length) else bytes
  ⟨bytes, r.length + 1⟩

def ofBits (bits : List Bool) : Revolution :=
  bits.foldl push empty

def trim (bytes : Array UInt8) (length : Nat) : Array UInt8 :=
  let kept := bytes.take ((length + 7) / 8)
  if length % 8 = 0 then kept
  else kept.modify (kept.size - 1) (· &&& 0xff <<< UInt8.ofNat (8 - length % 8))

def ofBytes? (bytes : Array UInt8) (length : Nat) : Option Revolution :=
  if length ≤ 8 * bytes.size then some ⟨trim bytes length, length⟩ else none

def packed (r : Revolution) : List UInt8 :=
  (r.bytes.take ((r.length + 7) / 8)).toList

end Revolution

end FloppyTrack
