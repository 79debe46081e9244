import FloppyTrack.Emission
import FloppyTrack.Scan
import FloppyTrack.Track

set_option autoImplicit false

namespace FloppyTrack

structure Codec where
  format : Format
  geometry : Geometry
  decode : Track → Reader (Report Track)
  encode : Track → Emission → Emission

namespace Codec

def recognise (codec : Codec) (source : Revolution) : Report Track :=
  let start := Cursor.start source Cursor.defaultRevolutions
  ((codec.decode (Track.new codec.format codec.geometry)).run start).1

def emit (codec : Codec) (track : Track) : Emission :=
  codec.encode track (Emission.start track.total track.offset)

end Codec

end FloppyTrack
