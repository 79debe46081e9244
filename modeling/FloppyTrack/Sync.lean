import FloppyTrack.Text.Column

set_option autoImplicit false

namespace FloppyTrack

-- The last cells of the value are compared, as many as there are bits.
structure Sync where
  value : UInt32
  bits : Nat
deriving DecidableEq, Repr

namespace Sync

def short (value : UInt32) : Sync := ⟨value, 16⟩

def long (value : UInt32) : Sync := ⟨value, 32⟩

def mask (mark : Sync) : UInt32 :=
  if 32 ≤ mark.bits then 0xffffffff else (1 <<< UInt32.ofNat mark.bits) - 1

def isAt (mark : Sync) (word : UInt32) : Bool :=
  word &&& mark.mask == mark.value

def text (mark : Sync) : String :=
  "0x" ++ Text.hex ((mark.bits + 3) / 4) mark.value.toNat

end Sync

end FloppyTrack
