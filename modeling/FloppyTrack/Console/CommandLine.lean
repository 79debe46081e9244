set_option autoImplicit false

namespace FloppyTrack.Console.CommandLine

def wordOf (pending : List Char) : List (List Char) :=
  if pending.isEmpty then [] else [pending.reverse]

def split (pending : List Char) (quoted : Bool) : List Char → List (List Char)
  | [] => wordOf pending
  | c :: text =>
    if c = '"' then split pending (!quoted) text
    else if (c = ' ' ∨ c = '\t') ∧ quoted = false then wordOf pending ++ split [] false text
    else split (c :: pending) quoted text

def words (line : String) : List String :=
  (split [] false line.toList).map String.ofList

end FloppyTrack.Console.CommandLine
