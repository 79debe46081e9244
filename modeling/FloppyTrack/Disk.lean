import FloppyTrack.Catalog

set_option autoImplicit false

namespace FloppyTrack

structure Disk where
  tracks : List Track
deriving DecidableEq, Repr

namespace Disk

def blank (n : Nat) : Disk := ⟨List.replicate n .unformatted⟩

def size (disk : Disk) : Nat := disk.tracks.length

def get? (disk : Disk) (n : Nat) : Option Track := disk.tracks[n]?

def set (disk : Disk) (n : Nat) (track : Track) : Disk := ⟨disk.tracks.set n track⟩

def countFormatted (disk : Disk) : Nat := disk.tracks.countP Track.isFormatted

def invalidTrack (disk : Disk) (n : Nat) : Fault :=
  .invalidTrack n (disk.size - 1)

def decode (disk : Disk) (n : Nat) (format : Format) (source : Revolution) :
    Report Track × Disk :=
  if n < disk.size then
    match format.codec with
    | .error error => (⟨.error error, []⟩, disk)
    | .ok codec =>
      let report := codec.recognise source
      match report.result with
      | .error error => (⟨.error error, report.events⟩, disk)
      | .ok track =>
        let noted := .decoded n format track.total track.offset track.data.length
        (⟨.ok track, report.events ++ [noted]⟩, disk.set n track)
  else (⟨.error (disk.invalidTrack n), []⟩, disk)

-- Any error but that of a misfit ends the search.
def identifyAmong (disk : Disk) (n : Nat) (source : Revolution) :
    List Format → Report (Option Format) × Disk
  | [] => (⟨.ok none, []⟩, disk)
  | format :: formats =>
    let (report, disk) := disk.decode n format source
    match report.result with
    | .ok _ => (⟨.ok (some format), report.events⟩, disk)
    | .error error =>
      if error.isMisfit then
        let (later, disk) := identifyAmong disk n source formats
        (⟨later.result, report.events ++ .mismatched n format error :: later.events⟩, disk)
      else (⟨.error error, report.events⟩, disk)

def identify (disk : Disk) (n : Nat) (formats : List Format) (source : Revolution) :
    Report (Option Format) × Disk :=
  if n < disk.size then disk.identifyAmong n source formats
  else (⟨.error (disk.invalidTrack n), []⟩, disk)

def encode (disk : Disk) (n : Nat) : Report Revolution :=
  match disk.get? n with
  | none => ⟨.error (disk.invalidTrack n), []⟩
  | some track =>
    if track.isFormatted then
      match track.format.codec with
      | .error error => ⟨.error error, []⟩
      | .ok codec =>
        let emission := codec.emit track
        ⟨.ok emission.toRevolution, emission.events⟩
    else ⟨.error (.unformatted n), []⟩

def clear (disk : Disk) (n : Nat) : Except Fault Disk :=
  if n < disk.size then .ok (disk.set n .unformatted) else .error (disk.invalidTrack n)

end Disk

end FloppyTrack
