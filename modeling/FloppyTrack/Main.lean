import FloppyTrack.Console.Session
import FloppyTrack.Console.Typing

set_option autoImplicit false

namespace FloppyTrack.Console

def fileFault : IO.Error → FileFault
  | .noFileOrDirectory .. => .missing
  | error => .other (toString error)

def localFiles : Files IO where
  read path := do
    try return .ok (← IO.FS.readBinFile path).toList
    catch error => return .error (fileFault error)
  write path bytes := do
    try
      IO.FS.writeBinFile path bytes.toByteArray
      return .ok ()
    catch error => return .error (fileFault error)

partial def converse (input : IO.FS.Stream) (s : Session) : IO Unit := do
  let line ← input.getLine
  if line.isEmpty then IO.println farewell
  else
    let reply ← s.answer localFiles (Typing.settle line)
    reply.lines.forM IO.println
    if reply.quit then return
    converse input reply.session

end FloppyTrack.Console

def main : IO Unit := do
  FloppyTrack.Console.banner.forM IO.println
  FloppyTrack.Console.converse (← IO.getStdin) FloppyTrack.Console.Session.start
