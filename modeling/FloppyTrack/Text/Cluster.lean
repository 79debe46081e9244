import FloppyTrack.Text.ClusterTable

set_option autoImplicit false

namespace FloppyTrack.Text

-- Whether `cluster` ends in a consonant bound to the next one: there is a linker behind it, among marks
-- alone.
def awaitsConsonant (cluster : List Char) : Bool :=
  let isMark (c : Char) : Bool :=
    clusterRole c = .joiner || (clusterRole c = .extend && c != nonJoiner)
  (cluster.takeWhile isMark).any linkers.has &&
    (cluster.dropWhile isMark).head?.any (clusterRole · = .consonant)

-- Whether `cluster` ends in a pictograph and its modifiers.
def endsPictograph (cluster : List Char) : Bool :=
  (cluster.dropWhile (clusterRole · = .extend)).head?.any (clusterRole · = .pictograph)

-- Whether `cluster` ends in half of a flag.
def endsHalfFlag (cluster : List Char) : Bool :=
  (cluster.takeWhile (clusterRole · = .regional)).length % 2 = 1

-- Whether `c` belongs to the cluster begun before it.
def continues : List Char → Char → Bool
  | [], _ => false
  | b :: before, c =>
    match clusterRole b, clusterRole c with
    | .carriageReturn, .lineFeed => true
    | .carriageReturn, _ | .lineFeed, _ | .control, _ => false
    | _, .carriageReturn | _, .lineFeed | _, .control => false
    | .leadingJamo, .leadingJamo | .leadingJamo, .vowelJamo => true
    | .leadingJamo, .openSyllable | .leadingJamo, .closedSyllable => true
    | .openSyllable, .vowelJamo | .vowelJamo, .vowelJamo => true
    | .openSyllable, .trailingJamo | .vowelJamo, .trailingJamo => true
    | .closedSyllable, .trailingJamo | .trailingJamo, .trailingJamo => true
    | _, .extend | _, .joiner | _, .spacing => true
    | .prepend, _ => true
    | _, .consonant => awaitsConsonant (b :: before)
    | .joiner, .pictograph => endsPictograph before
    | .regional, .regional => endsHalfFlag (b :: before)
    | _, _ => false

-- The clusters of `cluster` and the text behind it.
def clustersFrom (cluster : List Char) : List Char → List (List Char)
  | [] => [cluster.reverse]
  | c :: text =>
    if continues cluster c then clustersFrom (c :: cluster) text
    else cluster.reverse :: clustersFrom [c] text

def clusters : List Char → List (List Char)
  | [] => []
  | c :: text => clustersFrom [c] text

end FloppyTrack.Text
