import FloppyTrack.Codec

set_option autoImplicit false

namespace FloppyTrack.KeyTrack

def size : Nat := 122

def crc : UInt16 := 0x010a

-- The mark at the end of the track. The block is looked for behind it, on the next turn.
def leadMark : Sync := .short 0x924a

def dataMark : Sync := .short 0x9251

def look : Reader (Finding (List UInt8)) := do
  Reader.restartCrc
  let data ← Reader.bytes? size
  let found ← Reader.asks Cursor.crc
  match data with
  | some data => return if found = crc then .accept data else .reject (.crc found)
  | none => return .reject (.crc found)

def decode (track : Track) : Reader (Report Track) := do
  if ← Reader.seekMark leadMark then
    let report ← scan .sevenCities dataMark look
    return report.map fun data => { track with size, offset := 76000, total := 101500, data }
  else return ⟨.error (.noMatch .sevenCities), []⟩

def encode (track : Track) (e : Emission) : Emission :=
  let e := e.word .raw 16 dataMark.value.toNat
  let e := e.block .raw track.data
  let e := e.block .mfm (List.replicate (6052 - track.data.length / 2) 0)
  -- These bits make the cells of the mark that ends the track.
  e.word .mfm 16 0x0480

def codec : Codec := ⟨.sevenCities, .none, decode, encode⟩

end FloppyTrack.KeyTrack
