import FloppyTrack.Bits
import FloppyTrack.Format
import FloppyTrack.Geometry

set_option autoImplicit false

namespace FloppyTrack

structure Track where
  format : Format
  offset : Nat
  total : Nat
  size : Nat
  geometry : Geometry
  goodSectors : UInt32
  data : List UInt8
deriving DecidableEq, Repr

namespace Track

def standardTotal : Nat := 100150

def new (format : Format) (geometry : Geometry) : Track :=
  ⟨format, 0, standardTotal, geometry.size, geometry, 0, []⟩

def unformatted : Track := new .unformatted .none

def isFormatted (track : Track) : Bool := track.format ≠ .unformatted

def goodCount (track : Track) : Nat :=
  (Bits.ofNat 32 track.goodSectors.toNat).count true

def allGood (track : Track) : Bool :=
  track.goodSectors == track.geometry.fullMask

end Track

end FloppyTrack
