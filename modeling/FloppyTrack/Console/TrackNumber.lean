set_option autoImplicit false

namespace FloppyTrack.Console

def trackLimit : Nat := 160

def addDigit? (value : Nat) (c : Char) : Option Nat :=
  let next := 10 * value + (c.toNat - '0'.toNat)
  if c.isDigit ∧ next < 0x10000000000000000 then some next else none

def digits? (digits : List Char) : Option Nat :=
  if digits.isEmpty then none else digits.foldlM addDigit? 0

def number? (text : String) : Option Nat :=
  match text.toList with
  | '+' :: digits => digits? digits
  | digits => digits? digits

def trackNumber? (text : String) : Option Nat :=
  match number? text with
  | some n => if n < trackLimit then some n else none
  | none => none

end FloppyTrack.Console
