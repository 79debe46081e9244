import FloppyTrack.Codec

set_option autoImplicit false

namespace FloppyTrack

inductive Fill where
  | fixed (value : UInt8)
  -- Whatever byte comes first, which is kept as the data of the track.
  | captured
deriving DecidableEq, Repr

inductive FillLength where
  | fixed (count : Nat)
  -- Once for every sixteen cells of the track, less the margin.
  | perTrack (margin : Nat)
deriving DecidableEq, Repr

structure LongTrack where
  format : Format
  -- Without a mark only the length of the turn is checked.
  mark : Option Sync
  markBits : Nat
  signature : List UInt8 := []
  fill : Fill := .fixed 0
  -- The last one is not checked.
  repeats : Nat
  minimum : Option Nat := none
  total : Option Nat := none
  fillLength : FillLength
deriving DecidableEq, Repr

namespace LongTrack

def protec : LongTrack :=
  { format := .protec, mark := some (.short 0x4454), markBits := 16, fill := .captured,
    repeats := 1000, minimum := some 107200, total := some 110000, fillLength := .fixed 6000 }

def gremlin : LongTrack :=
  { format := .gremlin, mark := some (.long 0x41244124), markBits := 32, repeats := 8,
    total := some 105500, fillLength := .perTrack 250 }

-- An ordinary track as to its length, which is therefore left alone.
def tiertex : LongTrack :=
  { format := .tiertex, mark := some (.long 0x41244124), markBits := 32, repeats := 8,
    fillLength := .perTrack 250 }

def crystals : LongTrack :=
  { format := .crystals, mark := some (.long 0xaaaaa144), markBits := 16,
    signature := [0x52, 0x4f, 0x44, 0x30], repeats := 6500, minimum := some 104128,
    total := some 110000, fillLength := .fixed 6550 }

def infogrames : LongTrack :=
  { format := .infogrames, mark := some (.short 0xa144), markBits := 16, repeats := 6510,
    minimum := some 104160, total := some 105500, fillLength := .fixed 6550 }

def bat : LongTrack :=
  { format := .bat, mark := some (.long 0xaaaa8945), markBits := 16, repeats := 6826,
    minimum := some 109500, total := some 110000, fillLength := .fixed 6840 }

def powerPack : LongTrack :=
  { format := .powerPack, mark := some (.short 0x924a), markBits := 16, fill := .fixed 0xdc,
    repeats := 6600, minimum := some 110000, total := some 111000, fillLength := .fixed 6600 }

-- Any turn that is long enough passes for it.
def empty : LongTrack :=
  { format := .empty, mark := none, markBits := 0, repeats := 0, minimum := some 105000,
    total := some 110000, fillLength := .fixed 4 }

def all : List LongTrack :=
  [protec, gremlin, tiertex, crystals, infogrames, bat, powerPack, empty]

def ofFormat? (format : Format) : Option LongTrack :=
  all.find? (·.format = format)

def readSignature (t : LongTrack) : Reader (Except Flaw Unit) := do
  if t.signature.isEmpty then return .ok ()
  let some raw ← Reader.bytes? (2 * t.signature.length) | return .error .signature
  if Encoding.mfm.decodeBlock t.signature.length raw = t.signature then return .ok ()
  else return .error .signature

def readFill (t : LongTrack) : Reader (Except Flaw UInt8) := do
  let byte? ←
    match t.fill with
    | .fixed value => pure (some value)
    | .captured => Reader.byte?
  let some byte := byte? | return .error (.pattern 0 0)
  return (← Reader.fill t.repeats byte).map fun _ => byte

def readLength (t : LongTrack) : Reader (Except Fault Unit) := do
  match t.minimum with
  | none => return .ok ()
  | some minimum => return (← Reader.length t.format minimum).map fun _ => ()

def dataOf (t : LongTrack) (byte : UInt8) : List UInt8 :=
  match t.fill with
  | .captured => [byte]
  | .fixed _ => []

def look (t : LongTrack) : Reader (Finding (Nat × List UInt8)) := do
  let offset ← Reader.asks (·.startOfLast t.markBits)
  match ← t.readSignature with
  | .error why => return .reject why
  | .ok () =>
    match ← t.readFill with
    | .error why => return .reject why
    | .ok byte =>
      match ← t.readLength with
      | .error error => return .giveUp error
      | .ok () => return .accept (offset, t.dataOf byte)

-- The track is written from half a turn behind the index pulse on.
def measure (t : LongTrack) (track : Track) : Reader (Report Track) := do
  let total := t.total.getD track.total
  match ← Reader.length t.format (t.minimum.getD 0) with
  | .error error => return ⟨.error error, []⟩
  | .ok measured =>
    let track := { track with total, offset := total / 2, size := 0, data := [] }
    return ⟨.ok track, [.measured t.format measured]⟩

def found (t : LongTrack) (track : Track) (offset : Nat) (data : List UInt8) : Track :=
  { track with offset, total := t.total.getD track.total, size := data.length, data }

def decode (t : LongTrack) (track : Track) : Reader (Report Track) :=
  match t.mark with
  | none => t.measure track
  | some mark => do
    let report ← scan t.format mark t.look
    return report.map fun (offset, data) => t.found track offset data

def fillByte (t : LongTrack) (track : Track) : UInt8 :=
  match t.fill with
  | .fixed value => value
  | .captured => track.data.headD 0

def repeatCount (t : LongTrack) (total : Nat) : Nat :=
  match t.fillLength with
  | .fixed count => count
  | .perTrack margin => total / 16 - margin

def encode (t : LongTrack) (track : Track) (e : Emission) : Emission :=
  let e :=
    match t.mark with
    | some mark => e.word .raw t.markBits mark.value.toNat
    | none => e
  (e.block .mfm t.signature).block .mfm
    (List.replicate (t.repeatCount track.total) (t.fillByte track))

def codec (t : LongTrack) : Codec := ⟨t.format, .none, t.decode, t.encode⟩

end LongTrack

end FloppyTrack
