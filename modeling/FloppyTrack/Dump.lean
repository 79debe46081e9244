import FloppyTrack.Revolution
import FloppyTrack.Fault

set_option autoImplicit false

namespace FloppyTrack.Dump

def magic : List UInt8 := [0x42, 0x49, 0x54, 0x43]

def longBytes (n : Nat) : List UInt8 :=
  [UInt8.ofNat (n / 0x1000000), UInt8.ofNat (n / 0x10000), UInt8.ofNat (n / 0x100), UInt8.ofNat n]

def longOf (a b c d : UInt8) : Nat :=
  ((a.toNat * 256 + b.toNat) * 256 + c.toNat) * 256 + d.toNat

def render (r : Revolution) : List UInt8 :=
  magic ++ longBytes r.length ++ r.packed

def parseBody : List UInt8 → Except DumpFault Revolution
  | a :: b :: c :: d :: data =>
    let count := longOf a b c d
    if count = 0 then .error .emptyRevolution
    else
      match Revolution.ofBytes? data.toArray count with
      | some r => .ok r
      | none => .error (.missingCells count)
  | _ => .error .truncatedHeader

def parseBare (data : List UInt8) : Except DumpFault Revolution :=
  let count := 8 * data.length
  if count = 0 then .error .emptyRevolution
  else if 0x100000000 ≤ count then .error .tooLong
  else .ok ⟨data.toArray, count⟩

-- Bytes that do not start with the magic are taken for cells alone, all of them.
def parse (data : List UInt8) : Except Fault Revolution :=
  let parsed :=
    if magic.isPrefixOf data then parseBody (data.drop magic.length) else parseBare data
  parsed.mapError .invalidDump

end FloppyTrack.Dump
