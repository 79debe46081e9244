import FloppyTrack.Codec

set_option autoImplicit false

namespace FloppyTrack.RType

def mark : Sync := .short 0x9521

def geometryA : Geometry := ⟨5968, 1⟩

def geometryB : Geometry := ⟨6552, 1⟩

-- The even half of the checksum of variant B.
def evenMarker : UInt32 := 0xaaaaaaaa

def checksumB (data : List UInt8) : UInt32 :=
  (checksum data &&& oddMask) ||| evenMarker

def long (data : List UInt8) : UInt32 := (longs data).headD 0

def lookA : Reader (Finding (Nat × List UInt8)) := do
  let size := geometryA.size
  let offset ← Reader.asks (·.startOfLast mark.bits)
  let some marker ← Reader.byte? | return .giveUp (.noMatch .rTypeA)
  if marker ≠ 0 then return .reject (.marker marker)
  let some word ← Reader.bits 32 | return .giveUp (.noMatch .rTypeA)
  let stored := Encoding.odd.decodeLong word
  let some raw ← Reader.bytes? (2 * size) | return .giveUp (.noMatch .rTypeA)
  let data := Encoding.evenOdd.decodeBlock size raw
  let computed := checksum data
  if computed = stored then return .accept (offset, data)
  else return .reject (.checksum stored computed)

def lookB : Reader (Finding (Nat × List UInt8)) := do
  let size := geometryB.size
  let offset ← Reader.asks (·.startOfLast mark.bits)
  let some marker ← Reader.byte? | return .giveUp (.noMatch .rTypeB)
  if marker ≠ 0 then return .reject (.marker marker)
  let some raw ← Reader.bytes? (2 * size) | return .giveUp (.noMatch .rTypeB)
  let data := Encoding.evenOddLongs.decodeBlock size raw
  let some raw ← Reader.bytes? 8 | return .giveUp (.noMatch .rTypeB)
  let stored := long (Encoding.evenOdd.decodeBlock 4 raw)
  let computed := checksum data
  if stored &&& ~~~oddMask = evenMarker ∧ stored &&& oddMask = computed then
    return .accept (offset, data)
  else return .reject (.checksum stored (computed ||| evenMarker))

def found (track : Track) (geometry : Geometry) (offset : Nat) (data : List UInt8) : Track :=
  { track with
    offset, geometry, data, size := geometry.size, goodSectors := geometry.fullMask }

def decodeA (track : Track) : Reader (Report Track) := do
  let report ← scan .rTypeA mark lookA
  return report.map fun (offset, data) => found track geometryA offset data

def decodeB (track : Track) : Reader (Report Track) := do
  let report ← scan .rTypeB mark lookB
  return report.map fun (offset, data) =>
    { found track geometryB offset data with total := 105500 }

def encodeLead (e : Emission) : Emission :=
  (e.word .raw 16 mark.value.toNat).word .mfm 8 0

-- The checksum stands in front as a single odd half, and the block has all its even halves first.
def encodeA (track : Track) (e : Emission) : Emission :=
  let e := (encodeLead e).word .odd 32 (checksum track.data).toNat
  e.block .evenOdd track.data

-- The block is split by longs, and the checksum behind it has every bit of its even half set.
def encodeB (track : Track) (e : Emission) : Emission :=
  let e := (encodeLead e).block .evenOddLongs track.data
  e.word .evenOdd 32 (checksumB track.data).toNat

def codecA : Codec := ⟨.rTypeA, geometryA, decodeA, encodeA⟩

def codecB : Codec := ⟨.rTypeB, geometryB, decodeB, encodeB⟩

end FloppyTrack.RType
