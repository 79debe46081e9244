import FloppyTrack.Text.Blank
import FloppyTrack.Text.LowerCase

set_option autoImplicit false

namespace FloppyTrack

inductive Format where
  | unformatted
  | protec
  | gremlin
  | tiertex
  | crystals
  | infogrames
  | bat
  | powerPack
  | sevenCities
  | empty
  | rTypeA
  | rTypeB
deriving DecidableEq, Repr

namespace Format

def all : List Format :=
  [unformatted, protec, gremlin, tiertex, crystals, infogrames, bat, powerPack, sevenCities, empty,
    rTypeA, rTypeB]

def name : Format → String
  | unformatted => "unformatted"
  | protec => "protec_longtrack"
  | gremlin => "gremlin_longtrack"
  | tiertex => "tiertex_longtrack"
  | crystals => "crystals_of_arborea_longtrack"
  | infogrames => "infogrames_longtrack"
  | bat => "bat_longtrack"
  | powerPack => "app_longtrack"
  | sevenCities => "sevencities_longtrack"
  | empty => "empty_longtrack"
  | rTypeA => "rtype_a"
  | rTypeB => "rtype_b"

def description : Format → String
  | unformatted => "Unformatted"
  | protec => "PROTEC Long Track"
  | gremlin => "Gremlin Long Track"
  | tiertex => "Tiertex Long Track"
  | crystals => "Crystals Of Arborea Long Track"
  | infogrames => "Infogrames Long Track"
  | bat => "B.A.T. Long Track"
  | powerPack => "Amiga Power Pack Long Track"
  | sevenCities => "Seven Cities Of Gold Long Track"
  | empty => "Empty Long Track"
  | rTypeA => "R-Type (Variant A)"
  | rTypeB => "R-Type (Variant B)"

def ofName? (name : String) : Option Format :=
  all.find? (·.name == name)

def normalizeName (text : String) : String :=
  String.ofList (Text.lower (Text.trim text.toList))

end Format

end FloppyTrack
