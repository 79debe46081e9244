import FloppyTrack.Catalog
import FloppyTrack.Console.Verb
import FloppyTrack.Text.Bytes

set_option autoImplicit false

namespace FloppyTrack.Console

structure Completion where
  start : Nat
  candidates : List String
deriving DecidableEq, Repr

def matching (typed : List Char) (words : List String) : List String :=
  words.filter fun word => (Text.lower typed).isPrefixOf word.toList

def complete (line : String) (caret : Nat) : Completion :=
  let typed := Text.takeBytes caret line.toList
  match typed.dropWhile (· ≠ ' ') with
  | [] => ⟨0, matching typed Verb.words⟩
  | _ :: argument =>
    if typed.takeWhile (· ≠ ' ') = "decode".toList ∧ ' ' ∉ argument then
      ⟨caret - Text.byteLength argument, matching argument (Catalog.formats.map Format.name)⟩
    else ⟨caret, []⟩

end FloppyTrack.Console
