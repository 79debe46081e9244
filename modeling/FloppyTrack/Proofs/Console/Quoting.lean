import FloppyTrack.Proofs.Console.Turns

set_option autoImplicit false

namespace FloppyTrack

namespace Text

theorem trim_between {first last : Char} (middle : List Char) (front : isBlank first = false)
    (back : isBlank last = false) : trim (first :: middle ++ [last]) = first :: middle ++ [last] := by
  have ahead : (first :: middle ++ [last]).dropWhile isBlank = first :: middle ++ [last] :=
    List.dropWhile_cons_of_neg (by rw [front]; decide)
  have behind : (last :: (first :: middle).reverse).dropWhile isBlank =
      last :: (first :: middle).reverse :=
    List.dropWhile_cons_of_neg (by rw [back]; decide)
  rw [trim, ahead, List.reverse_append, List.reverse_singleton, List.singleton_append, behind,
    List.reverse_cons, List.reverse_reverse]

end Text

namespace Console

namespace CommandLine

-- What parts two words when it stands outside quotes.
def Blank (c : Char) : Prop := c = ' ' ∨ c = '\t'

instance (c : Char) : Decidable (Blank c) := inferInstanceAs (Decidable (_ ∨ _))

theorem split_quote (pending text : List Char) (quoted : Bool) :
    split pending quoted ('"' :: text) = split pending (!quoted) text := if_pos rfl

theorem Blank.unquoted {c : Char} (blank : Blank c) : c ≠ '"' := by
  rintro rfl
  exact absurd blank (by decide)

theorem split_blank (pending text : List Char) {c : Char} (blank : Blank c) :
    split pending false (c :: text) = wordOf pending ++ split [] false text := by
  rw [split, if_neg blank.unquoted, if_pos ⟨blank, rfl⟩]

theorem split_goes (pending text : List Char) {c : Char} {quoted : Bool} (unquoted : c ≠ '"')
    (goes : Blank c → quoted = true) :
    split pending quoted (c :: text) = split (c :: pending) quoted text := by
  have within : ¬ ((c = ' ' ∨ c = '\t') ∧ quoted = false) := fun ⟨blank, outside⟩ =>
    absurd (goes blank) (by rw [outside]; decide)
  rw [split, if_neg unquoted, if_neg within]

-- A quote turns, a blank outside quotes ends the word, and any other character goes on with it.
theorem split_cases (pending text : List Char) (c : Char) (quoted : Bool) :
    (c = '"' ∧ split pending quoted (c :: text) = split pending (!quoted) text) ∨
    (Blank c ∧ quoted = false ∧
      split pending quoted (c :: text) = wordOf pending ++ split [] false text) ∨
    (c ≠ '"' ∧ (Blank c → quoted = true) ∧
      split pending quoted (c :: text) = split (c :: pending) quoted text) := by
  by_cases quote : c = '"'
  · subst quote
    exact .inl ⟨rfl, split_quote pending text quoted⟩
  · by_cases goes : Blank c → quoted = true
    · exact .inr (.inr ⟨quote, goes, split_goes pending text quote goes⟩)
    · obtain ⟨blank, outside⟩ := Classical.not_imp.mp goes
      obtain rfl := Bool.eq_false_of_not_eq_true outside
      exact .inr (.inl ⟨blank, rfl, split_blank pending text blank⟩)

theorem word_of_mem {pending word : List Char} (member : word ∈ wordOf pending) :
    pending ≠ [] ∧ word = pending.reverse := by
  unfold wordOf at member
  split at member
  · cases member
  · rename_i begun
    exact ⟨fun empty => begun (by rw [empty]; rfl), List.mem_singleton.mp member⟩

theorem word_of_reverse {word : List Char} (filled : word ≠ []) : wordOf word.reverse = [word] := by
  have begun : ¬ word.reverse.isEmpty = true := fun empty =>
    filled (List.reverse_eq_nil_iff.mp (List.isEmpty_iff.mp empty))
  rw [wordOf, if_neg begun, List.reverse_reverse]

theorem split_words (text pending : List Char) (quoted : Bool) (unquoted : '"' ∉ pending) :
    ∀ word ∈ split pending quoted text, word ≠ [] ∧ '"' ∉ word := by
  have ends : ∀ pending : List Char, '"' ∉ pending → ∀ word ∈ wordOf pending,
      word ≠ [] ∧ '"' ∉ word := by
    intro pending unquoted word member
    obtain ⟨begun, rfl⟩ := word_of_mem member
    exact ⟨fun empty => begun (List.reverse_eq_nil_iff.mp empty),
      fun quote => unquoted (List.mem_reverse.mp quote)⟩
  induction text generalizing pending quoted with
  | nil => exact ends pending unquoted
  | cons c text ih =>
    intro word member
    rcases split_cases pending text c quoted with ⟨rfl, turned⟩ | ⟨-, -, parted⟩ | ⟨other, -, goes⟩
    · rw [turned] at member
      exact ih pending _ unquoted word member
    · rw [parted] at member
      rcases List.mem_append.mp member with ended | later
      · exact ends pending unquoted word ended
      · exact ih [] false List.not_mem_nil word later
    · rw [goes] at member
      have more : '"' ∉ c :: pending :=
        List.not_mem_cons_of_ne_of_not_mem (Ne.symm other) unquoted
      exact ih (c :: pending) quoted more word member

-- Between quotes all characters go on with the word.
theorem split_quoted (word pending back : List Char) (unquoted : '"' ∉ word) :
    split pending true (word ++ '"' :: back) = split (word.reverse ++ pending) false back := by
  induction word generalizing pending with
  | nil => exact if_pos rfl
  | cons c word ih =>
    have other : c ≠ '"' := fun same => unquoted (by rw [same]; exact List.mem_cons_self)
    have later : '"' ∉ word := fun inside => unquoted (List.mem_cons_of_mem c inside)
    rw [List.cons_append, split_goes _ _ other fun _ => rfl, ih (c :: pending) later,
      List.reverse_cons, List.append_assoc]
    rfl

theorem words_made {line token : String} (member : token ∈ words line) :
    token ≠ "" ∧ '"' ∉ token.toList := by
  obtain ⟨word, inside, rfl⟩ := List.mem_map.mp member
  obtain ⟨filled, unquoted⟩ := split_words _ [] false List.not_mem_nil word inside
  rw [String.toList_ofList]
  refine ⟨fun empty => filled ?_, unquoted⟩
  rw [← String.toList_ofList (l := word), empty]
  rfl

end CommandLine

-- What stands between quotes as one word.
structure Quotable (word : String) : Prop where
  filled : word ≠ ""
  unquoted : '"' ∉ word.toList

theorem word_quotable {line word : String} (member : word ∈ wordsOf line) : Quotable word := by
  obtain ⟨filled, unquoted⟩ := CommandLine.words_made member
  exact ⟨filled, unquoted⟩

-- The line that loads what is at the path.
def loadLine (path : String) : String := "load \"" ++ path ++ "\""

theorem load_words {path : String} (quotable : Quotable path) :
    wordsOf (loadLine path) = ["load", path] := by
  have chars : (loadLine path).toList =
      'l' :: ("oad \"".toList ++ path.toList) ++ ['"'] := by
    rw [loadLine, String.toList_append, String.toList_append]
    rfl
  have trimmed : Text.trim (loadLine path).toList = (loadLine path).toList := by
    rw [chars]
    exact Text.trim_between _ (by decide) (by decide)
  have first : CommandLine.split [] false (loadLine path).toList =
      "load".toList :: CommandLine.split [] true (path.toList ++ ['"']) := by
    rw [chars]
    rfl
  have filled : path.toList ≠ [] := fun empty => quotable.filled (String.toList_eq_nil_iff.mp empty)
  have last : CommandLine.split (path.toList.reverse ++ []) false [] = [path.toList] := by
    rw [List.append_nil]
    exact CommandLine.word_of_reverse filled
  rw [wordsOf, trimmed, CommandLine.words, String.toList_ofList, first,
    CommandLine.split_quoted _ _ _ quotable.unquoted, last, List.map_cons, List.map_singleton,
    String.ofList_toList, String.ofList_toList]

end Console

end FloppyTrack
