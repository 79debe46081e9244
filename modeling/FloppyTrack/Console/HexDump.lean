import FloppyTrack.Text.Column

set_option autoImplicit false

namespace FloppyTrack.Console.HexDump

def glyph (byte : UInt8) : Char :=
  if 32 ≤ byte ∧ byte < 127 then Char.ofNat byte.toNat else '.'

def column (bytes : List UInt8) (i : Nat) : String :=
  let digits :=
    match bytes[i]? with
    | some byte => Text.hexUpper 2 byte.toNat ++ " "
    | none => "   "
  if i = 7 then digits ++ " " else digits

def line (start : Nat) (bytes : List UInt8) : String :=
  Text.hexUpper 4 start ++ ": " ++ String.join ((List.range 16).map (column bytes)) ++ " |" ++
    String.ofList (bytes.map glyph) ++ "|"

def linesFrom (start : Nat) : Nat → List UInt8 → List String
  | 0, _ => []
  | n + 1, bytes =>
    if bytes.isEmpty then []
    else line start (bytes.take 16) :: linesFrom (start + 16) n (bytes.drop 16)

def render (max : Nat) (data : List UInt8) : List String :=
  let shown := data.take max
  let more := data.length - shown.length
  linesFrom 0 shown.length shown ++ if more = 0 then [] else [s!"... ({more} more bytes)"]

end FloppyTrack.Console.HexDump
