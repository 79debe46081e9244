import FloppyTrack.Format

set_option autoImplicit false

namespace FloppyTrack

inductive FileFault where
  | missing
  | nulInName
  | other (text : String)
deriving DecidableEq, Repr

def FileFault.text : FileFault → String
  | missing => "No such file or directory (os error 2)"
  | nulInName => "file name contained an unexpected NUL byte"
  | other text => text

inductive DumpFault where
  | truncatedHeader
  | emptyRevolution
  | missingCells (count : Nat)
  | tooLong
deriving DecidableEq, Repr

def DumpFault.text : DumpFault → String
  | truncatedHeader => "Truncated bitcell header"
  | emptyRevolution => "Empty revolution"
  | missingCells count => s!"Bitcell count {count} exceeds file data"
  | tooLong => "Revolution too long"

inductive Fault where
  | file (fault : FileFault)
  | invalidDump (fault : DumpFault)
  | invalidTrack (track max : Nat)
  | unknownFormat (name : String)
  | noMatch (format : Format)
  | tooShort (format : Format) (measured minimum : Nat)
  | unformatted (track : Nat)
deriving DecidableEq, Repr

namespace Fault

def message : Fault → String
  | file fault => "I/O error: " ++ fault.text
  | invalidDump fault => "Invalid format: " ++ fault.text
  | invalidTrack track max => s!"Invalid track {track} (max: {max})"
  | unknownFormat name => "Unknown track type: " ++ name
  | noMatch format => "No " ++ format.name ++ " track found: stream exhausted"
  | tooShort format measured minimum =>
    format.name ++ s!" track too short: {measured} bits (min: {minimum})"
  | unformatted track => s!"Track {track} is unformatted"

def isMisfit : Fault → Bool
  | noMatch _ | tooShort .. => true
  | _ => false

end Fault

def Format.parse (text : String) : Except Fault Format :=
  let name := normalizeName text
  match ofName? name with
  | some format => .ok format
  | none => .error (.unknownFormat name)

end FloppyTrack
