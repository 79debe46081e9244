import FloppyTrack.Console.CommandLine
import FloppyTrack.Console.Files
import FloppyTrack.Console.HexDump
import FloppyTrack.Console.TrackNumber
import FloppyTrack.Console.Verb
import FloppyTrack.Console.Wording
import FloppyTrack.Disk
import FloppyTrack.Dump

set_option autoImplicit false

namespace FloppyTrack.Console

structure Session where
  disk : Disk
  track : Nat
  filename : Option String
  cells : Option Revolution
deriving DecidableEq, Repr

structure Reply where
  lines : List String
  session : Session
  -- Whether the session ends here.
  quit : Bool
deriving DecidableEq, Repr

namespace Session

def start : Session := ⟨.blank trackLimit, 0, none, none⟩

def current? (s : Session) : Option Track := s.disk.get? s.track

def decoded? (s : Session) : Option Track :=
  s.current?.filter Track.isFormatted

def say (s : Session) (lines : List String) : Reply := ⟨lines, s, false⟩

def captureLines (s : Session) : List String :=
  match s.filename, s.cells with
  | some filename, some cells =>
    ["Filename: " ++ filename, s!"Bitcells: {cells.length} " ++ turnText cells.length]
  | _, _ => ["No bitcells loaded"]

def infoLines (s : Session) : List String :=
  s.captureLines ++ [s!"Decoded tracks: {s.disk.countFormatted}/{s.disk.size}"] ++
    (s.current?.map (trackLines s.track)).getD []

def protectionLines (s : Session) : List String :=
  match s.cells with
  | none => [notLoaded]
  | some cells =>
    match Track.detect? cells with
    | some track => ["Protection: " ++ track.protectionText]
    | none => ["No protection detected"]

def encodeLines (s : Session) : List String :=
  match (s.disk.encode s.track).result with
  | .error fault => [faultLine fault]
  | .ok cells =>
    [s!"Regenerated track {s.track}: {cells.length} bitcells " ++ turnText cells.length]

-- Regenerates the current track, decodes it on another disk, and compares.
def verifyLines (s : Session) : List String :=
  match s.decoded? with
  | none => [notDecoded s.track]
  | some track =>
    match (s.disk.encode s.track).result with
    | .error fault => [faultLine fault]
    | .ok cells =>
      match ((Disk.blank trackLimit).decode s.track track.format cells).1.result with
      | .error fault => ["Regenerated track failed to decode: " ++ fault.message]
      | .ok again =>
        if again = track then ["Verified: regenerated track decodes identically"]
        else "Mismatch after regeneration:" :: trackLines s.track again

def defaultDump : Nat := 256

def dumpLines (s : Session) (args : List String) : List String :=
  match s.decoded? with
  | none => [notDecoded s.track]
  | some track =>
    if track.data.isEmpty then [s!"Track {s.track} carries no data"]
    else HexDump.render ((args.head?.bind number?).getD defaultDump) track.data

def setTrack (s : Session) : List String → Reply
  | [] => s.say [s!"Current track: {s.track}"]
  | arg :: _ =>
    match trackNumber? arg with
    | some n => { s with track := n }.say [s!"Current track: {n}"]
    | none => s.say [s!"Track must be 0-{trackLimit - 1}"]

def decode (s : Session) : List String → Reply
  | [] => s.say ["Usage: decode <type>"]
  | arg :: _ =>
    match Format.parse arg with
    | .error fault => s.say [faultLine fault]
    | .ok format =>
      match s.cells with
      | none => s.say [notLoaded]
      | some cells =>
        let (report, disk) := s.disk.decode s.track format cells
        match report.result with
        | .error fault => { s with disk }.say [faultLine fault]
        | .ok track => { s with disk }.say (trackLines s.track track)

def identify (s : Session) : Reply :=
  match s.cells with
  | none => s.say [notLoaded]
  | some cells =>
    let (report, disk) := s.disk.identify s.track Catalog.trialOrder cells
    match report.result with
    | .error fault => { s with disk }.say [faultLine fault]
    | .ok none => { s with disk }.say ["No known track format found"]
    | .ok (some _) =>
      { s with disk }.say (((disk.get? s.track).map (trackLines s.track)).getD [])

variable {m : Type → Type} [Monad m]

def loadFile (files : Files m) (s : Session) (path : String) : m Reply := do
  let read := (← files.read path).mapError Fault.file
  match read.bind Dump.parse with
  | .error fault => return s.say [faultLine fault]
  | .ok cells =>
    return { s with filename := some path, cells := some cells }.say
      [s!"Loaded: {path} ({cells.length} bitcells) as track {s.track}"]

-- A track number behind the path becomes the current track even if the file cannot be loaded.
def load (files : Files m) (s : Session) : List String → m Reply
  | [] => return s.say ["Usage: load <path> [track]"]
  | [path] => s.loadFile files path
  | path :: arg :: _ =>
    match trackNumber? arg with
    | some n => { s with track := n }.loadFile files path
    | none => return s.say ["Invalid track number: " ++ arg]

def save (files : Files m) (s : Session) : List String → m Reply
  | [] => return s.say ["Usage: save <path>"]
  | path :: _ =>
    match (s.disk.encode s.track).result with
    | .error fault => return s.say [faultLine fault]
    | .ok cells => do
      match ← files.write path (Dump.render cells) with
      | .error fault => return s.say [faultLine (.file fault)]
      | .ok () => return s.say [s!"Saved track {s.track} to {path}"]

def perform (files : Files m) (s : Session) (verb : Verb) (args : List String) : m Reply :=
  match verb with
  | .help => return s.say helpLines
  | .quit => return ⟨[farewell], s, true⟩
  | .load => s.load files args
  | .track => return s.setTrack args
  | .info => return s.say s.infoLines
  | .types => return s.say typeLines
  | .decode => return s.decode args
  | .identify => return s.identify
  | .protection => return s.say s.protectionLines
  | .encode => return s.say s.encodeLines
  | .verify => return s.say s.verifyLines
  | .dump => return s.say (s.dumpLines args)
  | .save => s.save files args

def answer (files : Files m) (s : Session) (line : String) : m Reply :=
  match CommandLine.words (String.ofList (Text.trim line.toList)) with
  | [] => return s.say []
  | word :: args =>
    let command := String.ofList (Text.lower word.toList)
    match Verb.ofWord? command with
    | some verb => s.perform files verb args
    | none => return s.say [unknownCommand command]

-- Until a line ends the session. The end of the lines does so too.
def answerAll (files : Files m) (s : Session) : List String → m (List String)
  | [] => return [farewell]
  | line :: lines => do
    let reply ← s.answer files line
    if reply.quit then return reply.lines
    else return reply.lines ++ (← reply.session.answerAll files lines)

end Session

def transcript {m : Type → Type} [Monad m] (files : Files m) (script : List String) :
    m (List String) :=
  return banner ++ (← Session.start.answerAll files script)

end FloppyTrack.Console
