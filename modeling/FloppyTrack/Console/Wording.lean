import FloppyTrack.Catalog
import FloppyTrack.Emission

set_option autoImplicit false

namespace FloppyTrack.Console

def banner : List String :=
  ["=== fluxtrack ===", "Interactive console for decoding Amiga protection and custom tracks.",
    "Type 'help' for available commands", ""]

def farewell : String := "Goodbye!"

def helpLines : List String := [
  "Available commands:",
  "  load <path> [track]            - Load a bitcell dump (use quotes for paths with spaces)",
  "  track [n]                      - Show or set the current track number (0-159)",
  "  info                           - Show loaded revolution and current track",
  "  types                          - List supported track types",
  "  decode <type>                  - Decode the loaded revolution as a track type",
  "  identify                       - Try every track type in turn",
  "  protection                     - Detect copy protection scheme",
  "  encode                         - Regenerate the current track",
  "  verify                         - Regenerate and decode again, comparing results",
  "  dump [max]                     - Hex dump the decoded track data (default 256 bytes)",
  "  save <path>                    - Save the regenerated track as a bitcell dump",
  "  help                           - Show this help",
  "  quit, exit                     - Exit"]

def faultLine (fault : Fault) : String := "Error: " ++ fault.message

def notLoaded : String := "No bitcells loaded. Use 'load <path>' first."

def notDecoded (n : Nat) : String := s!"Track {n} is not decoded"

def unknownCommand (command : String) : String :=
  s!"Unknown command: {command}. Type 'help' for available commands."

def turnText (length : Nat) : String :=
  s!"({turnMicros length} us at {nominalRate} kbps)"

def trackLines (n : Nat) (track : Track) : List String :=
  let title := s!"Track {n}: " ++ track.format.description
  let sectors :=
    s!"  Sectors:     {track.goodCount}/{track.geometry.sectors} valid " ++
      s!"({track.geometry.sectorSize} bytes each)"
  if track.isFormatted then
    [title, s!"  Total bits:  {track.total}", s!"  Data offset: {track.offset}",
      s!"  Data length: {track.data.length}"] ++
      if track.geometry.sectors = 0 then [] else [sectors]
  else [title]

def typeLine (name description layout : String) : String :=
  Text.padRight 32 name ++ " " ++ Text.padRight 34 description ++ " " ++ layout

def layoutText (geometry : Geometry) : String :=
  if geometry.isEmpty then "-" else s!"{geometry.sectors} x {geometry.sectorSize} bytes"

def typeLines : List String :=
  typeLine "Name" "Description" "Geometry" :: Catalog.formats.map fun format =>
    typeLine format.name format.description (layoutText format.geometry)

end FloppyTrack.Console
