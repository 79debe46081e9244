import FloppyTrack.Text.CaseTable

set_option autoImplicit false

namespace FloppyTrack.Text

-- The ignorable characters are passed over.
def meetsCased (text : List Char) : Bool :=
  match text.dropWhile isIgnorable with
  | c :: _ => isCased c
  | [] => false

-- The characters before the text come nearest first.
def lowerFrom (before : List Char) : List Char → List Char
  | [] => []
  | c :: text =>
    let lowered :=
      if c = 'Σ' then
        if meetsCased before && !meetsCased text then ['ς'] else ['σ']
      else if c = 'İ' then ['i', '\u0307']
      else [lowerChar c]
    lowered ++ lowerFrom (c :: before) text

def lower (text : List Char) : List Char := lowerFrom [] text

end FloppyTrack.Text
