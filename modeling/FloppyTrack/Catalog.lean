import FloppyTrack.Codec.KeyTrack
import FloppyTrack.Codec.LongTrack
import FloppyTrack.Codec.RType

set_option autoImplicit false

namespace FloppyTrack

namespace Catalog

def protections : List Codec :=
  LongTrack.all.map LongTrack.codec ++ [KeyTrack.codec]

def rTypes : List Codec := [RType.codecA, RType.codecB]

def codecs : List Codec := protections ++ rTypes

def formats : List Format :=
  Format.all.filter fun format => codecs.any (·.format = format)

end Catalog

namespace Format

def codec? (format : Format) : Option Codec :=
  Catalog.codecs.find? (·.format = format)

def codec (format : Format) : Except Fault Codec :=
  match format.codec? with
  | some codec => .ok codec
  | none => .error (.unknownFormat format.name)

def geometry (format : Format) : Geometry :=
  match format.codec? with
  | some codec => codec.geometry
  | none => .none

end Format

def postpone {α : Type} (late : α → Bool) (list : List α) : List α :=
  list.filter (fun a => !late a) ++ list.filter late

-- Any long turn passes for an empty track, so that comes last.
def Catalog.trialOrder : List Format :=
  postpone (· = .empty) formats

def Catalog.protectionOrder : List Codec :=
  postpone (·.format = .empty) protections

namespace Track

def detect? (source : Revolution) : Option Track :=
  Catalog.protectionOrder.findSome? fun codec => (codec.recognise source).result.toOption

def protectionText (track : Track) : String :=
  track.format.description ++ s!" ({track.total} bits, data at bit {track.offset})"

end Track

end FloppyTrack
