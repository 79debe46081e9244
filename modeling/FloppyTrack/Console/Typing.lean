import FloppyTrack.Text.Bytes
import FloppyTrack.Text.Cluster

set_option autoImplicit false

namespace FloppyTrack.Console.Typing

-- The characters come nearest first. The sizes of the clusters in bytes are counted modulo 256.
structure Kept where
  text : List Char
  sizes : List Nat

namespace Kept

def none : Kept := ⟨[], []⟩

def add (kept : Kept) (cluster : List Char) : Kept :=
  ⟨cluster.reverse ++ kept.text, Text.byteLength cluster % 256 :: kept.sizes⟩

def takeBack (kept : Kept) : Kept :=
  match kept.sizes with
  | [] => kept
  | size :: sizes => ⟨Text.dropBytes size kept.text, sizes⟩

def type (kept : Kept) (cluster : List Char) : Kept :=
  if cluster = ['\x08'] then kept.takeBack else kept.add cluster

end Kept

def settle (line : String) : String :=
  String.ofList ((Text.clusters line.toList).foldl Kept.type .none).text.reverse

end FloppyTrack.Console.Typing
