import FloppyTrack.Text.Column

set_option autoImplicit false

namespace FloppyTrack

inductive Flaw where
  | pattern (slot : Nat) (found : UInt8)
  | signature
  | marker (byte : UInt8)
  | checksum (stored computed : UInt32)
  | crc (value : UInt16)
deriving DecidableEq, Repr

def Flaw.text : Flaw → String
  | pattern slot found => s!"pattern broken at slot {slot} by " ++ Text.hex 2 found.toNat
  | signature => "signature mismatch"
  | marker byte => "marker byte " ++ Text.hex 2 byte.toNat
  | checksum stored computed =>
    "checksum " ++ Text.hex 8 stored.toNat ++ " != " ++ Text.hex 8 computed.toNat
  | crc value => "crc " ++ Text.hex 4 value.toNat

end FloppyTrack
