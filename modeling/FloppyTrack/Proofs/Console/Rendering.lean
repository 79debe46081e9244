import FloppyTrack.Proofs.Console.Quoting

set_option autoImplicit false

namespace FloppyTrack.Console.CommandLine

def Gap (gap : List Char) : Prop := ∀ c ∈ gap, Blank c

instance (gap : List Char) : Decidable (Gap gap) := List.decidableBAll Blank gap

-- A word and the characters typed for it.
inductive Spelt : List Char → List Char → Prop
  | nothing : Spelt [] []
  | bare {c : Char} {word typed : List Char} (unquoted : c ≠ '"') (inked : ¬ Blank c) :
      Spelt word typed → Spelt (c :: word) (c :: typed)
  | quoted {piece word typed : List Char} (unquoted : '"' ∉ piece) :
      Spelt word typed → Spelt (piece ++ word) ('"' :: piece ++ '"' :: typed)

-- Words one after another, each with the gap behind it. Only the last word can do without a gap.
inductive Spaced : List (List Char) → List Char → Prop
  | nothing : Spaced [] []
  | word {word typed gap : List Char} {words : List (List Char)} {line : List Char}
      (filled : word ≠ []) (spelt : Spelt word typed) (blank : Gap gap)
      (apart : words ≠ [] → gap ≠ []) :
      Spaced words line → Spaced (word :: words) (typed ++ gap ++ line)

-- The line that begins with a gap, which may be empty.
def Rendered (words : List (List Char)) (line : List Char) : Prop :=
  ∃ gap spaced, Gap gap ∧ Spaced words spaced ∧ line = gap ++ spaced

theorem Spelt.plain {word : List Char} (bare : ∀ c ∈ word, c ≠ '"' ∧ ¬ Blank c) :
    Spelt word word := by
  induction word with
  | nil => exact .nothing
  | cons c word ih =>
    obtain ⟨⟨unquoted, inked⟩, later⟩ := List.forall_mem_cons.mp bare
    exact .bare unquoted inked (ih later)

theorem Spelt.enclosed {word : List Char} (unquoted : '"' ∉ word) :
    Spelt word ('"' :: word ++ ['"']) := by
  have piece : Spelt (word ++ []) ('"' :: word ++ ['"']) := .quoted unquoted .nothing
  rwa [List.append_nil] at piece

theorem split_spelt {word typed : List Char} (spelt : Spelt word typed) (pending text : List Char) :
    split pending false (typed ++ text) = split (word.reverse ++ pending) false text := by
  induction spelt generalizing pending with
  | nothing => rfl
  | @bare c word typed unquoted inked _ ih =>
    rw [List.cons_append, split_goes _ _ unquoted fun blank => absurd blank inked, ih,
      List.reverse_cons, List.append_assoc, List.singleton_append]
  | @quoted piece word typed unquoted _ ih =>
    rw [List.cons_append, List.cons_append, split_quote, List.append_assoc, List.cons_append,
      Bool.not_false, split_quoted _ _ _ unquoted, ih, List.reverse_append, List.append_assoc]

theorem split_gap {gap : List Char} (blank : Gap gap) (text : List Char) :
    split [] false (gap ++ text) = split [] false text := by
  induction gap with
  | nil => rfl
  | cons c gap ih =>
    obtain ⟨first, later⟩ := List.forall_mem_cons.mp blank
    rw [List.cons_append, split_blank _ _ first, ih later]
    rfl

-- A gap ends the word before it, and so does the end of the line.
theorem split_ended {gap : List Char} (blank : Gap gap) (pending text : List Char)
    (ended : gap = [] → text = []) :
    split pending false (gap ++ text) = wordOf pending ++ split [] false text := by
  cases gap with
  | nil =>
    rw [ended rfl]
    exact (List.append_nil _).symm
  | cons c gap =>
    obtain ⟨first, later⟩ := List.forall_mem_cons.mp blank
    rw [List.cons_append, split_blank _ _ first, split_gap later]

theorem spaced_split {words : List (List Char)} {line : List Char} (spaced : Spaced words line) :
    split [] false line = words := by
  induction spaced with
  | nothing => rfl
  | @word word typed gap words line filled spelt blank apart later ih =>
    have ended : gap = [] → line = [] := by
      intro closed
      cases later with
      | nothing => rfl
      | word => exact absurd closed (apart (List.cons_ne_nil _ _))
    rw [List.append_assoc, split_spelt spelt, List.append_nil, split_ended blank _ _ ended,
      word_of_reverse filled, ih, List.singleton_append]

-- What follows these characters stands between quotes: they have an odd number of them.
def Between (front : List Char) : Prop := front.count '"' % 2 = 1

instance (front : List Char) : Decidable (Between front) := inferInstanceAs (Decidable (_ = _))

theorem between_quote (front : List Char) : Between (front ++ ['"']) ↔ ¬ Between front := by
  simp only [Between, List.count_append, List.count_singleton_self]
  omega

theorem between_goes (front : List Char) {c : Char} (unquoted : c ≠ '"') :
    Between (front ++ [c]) ↔ Between front := by
  simp [Between, unquoted]

-- A character behind these is part of a word.
def Inked (front : List Char) (c : Char) : Prop := c ≠ '"' ∧ (Blank c → Between front)

instance (front : List Char) (c : Char) : Decidable (Inked front c) :=
  inferInstanceAs (Decidable (_ ∧ _))

-- The line without its quotes and the blanks outside quotes.
def kept (line : List Char) : List Char :=
  (line.zipIdx.filter fun place => Inked (line.take place.2) place.1).map Prod.fst

theorem flatten_word_of (pending : List Char) : (wordOf pending).flatten = pending.reverse := by
  cases pending with
  | nil => rfl
  | cons c pending => exact List.append_nil _

-- One character, and the text behind it given.
theorem split_kept_cons {front pending text rest : List Char} {c : Char} {quoted : Bool}
    (within : quoted = true ↔ Between front)
    (later : ∀ pending quoted, (quoted = true ↔ Between (front ++ [c])) →
      (split pending quoted text).flatten = pending.reverse ++ rest) :
    (split pending quoted (c :: text)).flatten =
      pending.reverse ++ if Inked front c then c :: rest else rest := by
  rcases split_cases pending text c quoted with ⟨rfl, turned⟩ | ⟨blank, outside, parted⟩ |
    ⟨unquoted, held, goes⟩
  · have other : (!quoted) = true ↔ Between (front ++ ['"']) := by
      rw [between_quote, ← within, Bool.not_eq_true', Bool.not_eq_true]
    rw [turned, later pending _ other, if_neg fun inked => inked.1 rfl]
  · subst outside
    have same := within.trans (between_goes front blank.unquoted).symm
    have dropped : ¬ Inked front c := fun inked => Bool.false_ne_true (within.mpr (inked.2 blank))
    rw [parted, List.flatten_append, flatten_word_of, later [] false same, if_neg dropped,
      List.reverse_nil, List.nil_append]
  · have same := within.trans (between_goes front unquoted).symm
    have inked : Inked front c := ⟨unquoted, fun blank => within.mp (held blank)⟩
    rw [goes, later _ _ same, if_pos inked, List.reverse_cons, List.append_assoc,
      List.singleton_append]

-- By induction on the text still to come. The characters in front of it are a part of the line and tell
-- whether the text begins between quotes.
theorem split_kept {line : List Char} (text front pending : List Char) (quoted : Bool)
    (parts : line = front ++ text) (within : quoted = true ↔ Between front) :
    (split pending quoted text).flatten = pending.reverse ++
      ((text.zipIdx front.length).filter fun place => Inked (line.take place.2) place.1).map
        Prod.fst := by
  induction text generalizing front pending quoted with
  | nil => exact (flatten_word_of pending).trans (List.append_nil _).symm
  | cons c text ih =>
    have before : line.take front.length = front := by rw [parts, List.take_left]
    have behind : line = front ++ [c] ++ text := by rw [parts, List.append_assoc, List.singleton_append]
    have further := fun pending quoted => ih (front ++ [c]) pending quoted behind
    rw [split_kept_cons within further, List.zipIdx_cons, List.length_append, List.length_singleton,
      List.filter_cons, before]
    by_cases inked : Inked front c
    · rw [if_pos inked, if_pos (decide_eq_true inked), List.map_cons]
    · rw [if_neg inked, if_neg (by simpa using inked)]

theorem words_as_typed (line : String) :
    (∀ tokens : List String, Rendered (tokens.map String.toList) line.toList →
      words line = tokens) ∧
    (∀ token ∈ words line, token ≠ "" ∧ '"' ∉ token.toList) ∧
    (words line).flatMap String.toList = kept line.toList := by
  refine ⟨?_, ?_, ?_⟩
  · rintro tokens ⟨gap, spaced, blank, typed, chars⟩
    rw [words, chars, split_gap blank, spaced_split typed, List.map_map]
    simp
  · intro token member
    obtain ⟨filled, unquoted⟩ := words_made member
    exact ⟨filled, unquoted⟩
  · have whole : (split [] false line.toList).flatten = kept line.toList :=
      split_kept line.toList [] [] false rfl (by decide)
    rw [words, List.flatMap_map, ← whole]
    simp [List.flatMap_id']

-- Pieces as they are and between quotes, and blanks of both kinds.
theorem mixed_as_typed :
    Rendered (["load", "my track.raw", "3"].map String.toList)
      "\t load \"my track\".\"raw\"  \"3\"\t".toList ∧
    words "\t load \"my track\".\"raw\"  \"3\"\t" = ["load", "my track.raw", "3"] := by
  have command : Spelt "load".toList "load".toList := .plain (by simp [Blank])
  have number : Spelt "3".toList "\"3\"".toList := .enclosed (by decide)
  have ending : Spelt ('.' :: "raw".toList) ('.' :: '"' :: "raw".toList ++ ['"']) :=
    .bare (by decide) (by decide) (.enclosed (by decide))
  have path : Spelt ("my track".toList ++ '.' :: "raw".toList)
      ('"' :: "my track".toList ++ '"' :: '.' :: '"' :: "raw".toList ++ ['"']) :=
    .quoted (by decide) ending
  have one : Gap [' '] := by decide
  have two : Gap [' ', ' '] := by decide
  have tab : Gap ['\t'] := by decide
  have typed : Rendered (["load", "my track.raw", "3"].map String.toList)
      "\t load \"my track\".\"raw\"  \"3\"\t".toList :=
    ⟨['\t', ' '], _, by decide,
      .word (by decide) command one (by decide)
        (.word (by decide) path two (by decide)
          (.word (by decide) number tab (by decide) .nothing)), rfl⟩
  exact ⟨typed, (words_as_typed _).1 _ typed⟩

end FloppyTrack.Console.CommandLine
