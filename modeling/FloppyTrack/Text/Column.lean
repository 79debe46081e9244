set_option autoImplicit false

namespace FloppyTrack.Text

def padRight (width : Nat) (text : String) : String :=
  text ++ String.ofList (List.replicate (width - text.length) ' ')

def zeroPadded (width : Nat) (digits : List Char) : String :=
  String.ofList (List.replicate (width - digits.length) '0' ++ digits)

def hex (width n : Nat) : String :=
  zeroPadded width (Nat.toDigits 16 n)

def hexUpper (width n : Nat) : String :=
  zeroPadded width ((Nat.toDigits 16 n).map Char.toUpper)

end FloppyTrack.Text
