import FloppyTrack.Encoding

set_option autoImplicit false

namespace FloppyTrack

-- Bytes that do not fill a long are left out.
def longs : List UInt8 → List UInt32
  | a :: b :: c :: d :: data =>
    (a.toUInt32 <<< 24 ||| b.toUInt32 <<< 16 ||| c.toUInt32 <<< 8 ||| d.toUInt32) :: longs data
  | _ => []

-- The sum is folded onto itself by one bit, so that what is left fits the odd half of a long.
def checksum (data : List UInt8) : UInt32 :=
  let sum := (longs data).foldl (· ^^^ ·) 0
  (sum ^^^ sum >>> 1) &&& oddMask

namespace Crc16

def polynomial : UInt16 := 0x1021

def shift (crc : UInt16) : UInt16 :=
  crc <<< 1 ^^^ if crc &&& 0x8000 = 0 then 0 else polynomial

def byte (crc : UInt16) (byte : UInt8) : UInt16 :=
  Nat.repeat shift 8 (crc ^^^ byte.toUInt16 <<< 8)

def update (crc : UInt16) (data : List UInt8) : UInt16 :=
  data.foldl byte crc

def initial : UInt16 := 0xffff

end Crc16

end FloppyTrack
