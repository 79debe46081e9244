set_option autoImplicit false

namespace FloppyTrack

structure Geometry where
  sectorSize : Nat
  sectors : Nat
deriving DecidableEq, Repr

namespace Geometry

def none : Geometry := ⟨0, 0⟩

def size (g : Geometry) : Nat := g.sectorSize * g.sectors

def isEmpty (g : Geometry) : Bool := g.size == 0

-- The mask has room for 32 sectors.
def fullMask (g : Geometry) : UInt32 :=
  UInt32.ofNat (1 <<< min g.sectors 32 - 1)

end Geometry

end FloppyTrack
