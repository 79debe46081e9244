import FloppyTrack.Dump
import FloppyTrack.Proofs.Packing

set_option autoImplicit false

namespace FloppyTrack.Dump

-- The number that the bits of a header spell.
def countOf (header : List UInt8) : Nat := Bits.toNat (byteBits header)

-- The cells that bytes are a dump of: all bits of bytes without the magic, or as many of those behind
-- the header as it counts.
inductive Holds : List UInt8 → List Bool → Prop
  | bare {data : List UInt8} (nonempty : data ≠ []) (unmarked : ¬ magic <+: data) :
      Holds data (byteBits data)
  | counted {header body : List UInt8} (long : header.length = 4) (positive : 0 < countOf header)
      (held : countOf header ≤ 8 * body.length) :
      Holds (magic ++ header ++ body) ((byteBits body).take (countOf header))

theorem count_snoc (header : List UInt8) (byte : UInt8) :
    countOf (header ++ [byte]) = countOf header * 256 + byte.toNat := by
  have last : Bits.toNat (byteBits [byte]) = byte.toNat := by
    rw [byte_bits_cons, byteBits, List.flatMap_nil, List.append_nil, Bits.to_nat_of_nat]
    exact Nat.mod_eq_of_lt byte.toNat_lt
  rw [countOf, byte_bits_append, Bits.toNat, List.foldl_append, Bits.foldl_eq, last,
    byte_bits_length]
  rfl

theorem long_count (a b c d : UInt8) : longOf a b c d = countOf [a, b, c, d] := by
  have four : [a, b, c, d] = [] ++ [a] ++ [b] ++ [c] ++ [d] := rfl
  have uncounted : countOf [] = 0 := rfl
  rw [four, count_snoc, count_snoc, count_snoc, count_snoc, uncounted, Nat.zero_mul, Nat.zero_add]
  rfl

theorem count_long_bytes (n : Nat) (fits : n < 2 ^ 32) : countOf (longBytes n) = n := by
  rw [longBytes, ← long_count, longOf]
  simp only [UInt8.toNat_ofNat']
  omega

theorem parse_marked (rest : List UInt8) :
    parse (magic ++ rest) = (parseBody rest).mapError .invalidDump := by
  have marked : magic.isPrefixOf (magic ++ rest) = true :=
    List.isPrefixOf_iff_prefix.mpr (List.prefix_append _ _)
  rw [parse, if_pos marked, List.drop_left]

theorem parse_unmarked (data : List UInt8) (unmarked : ¬ magic <+: data) :
    parse data = (parseBare data).mapError .invalidDump := by
  have other : ¬ magic.isPrefixOf data = true := fun marked =>
    unmarked (List.isPrefixOf_iff_prefix.mp marked)
  rw [parse, if_neg other]

theorem parse_cut (rest : List UInt8) (short : rest.length < 4) :
    parse (magic ++ rest) = .error (.invalidDump .truncatedHeader) := by
  rw [parse_marked]
  match rest, short with
  | [], _ | [_], _ | [_, _], _ | [_, _, _], _ => rfl

theorem parse_counted (header body : List UInt8) (long : header.length = 4) :
    parse (magic ++ header ++ body) =
      if countOf header = 0 then .error (.invalidDump .emptyRevolution)
      else if countOf header ≤ 8 * body.length then
        .ok (Revolution.ofBits ((byteBits body).take (countOf header)))
      else .error (.invalidDump (.missingCells (countOf header))) := by
  rw [List.append_assoc, parse_marked]
  match header, long with
  | [a, b, c, d], _ =>
    simp only [List.cons_append, List.nil_append, parseBody, long_count]
    by_cases uncounted : countOf [a, b, c, d] = 0
    · rw [if_pos uncounted, if_pos uncounted]
      rfl
    · rw [if_neg uncounted, if_neg uncounted]
      by_cases held : countOf [a, b, c, d] ≤ 8 * body.length
      · have read : Revolution.ofBytes? body.toArray (countOf [a, b, c, d]) =
            some ⟨Revolution.trim body.toArray (countOf [a, b, c, d]), countOf [a, b, c, d]⟩ :=
          if_pos held
        have cells := Revolution.of_bytes_to_list read
        have same := (Revolution.of_bytes_tight read).of_bits
        rw [cells] at same
        rw [if_pos held, read, same]
        rfl
      · have unread : Revolution.ofBytes? body.toArray (countOf [a, b, c, d]) = Option.none :=
          if_neg held
        rw [if_neg held, unread]
        rfl

theorem parse_bare (data : List UInt8) (short : data.length < 2 ^ 29) (unmarked : ¬ magic <+: data) :
    parse data =
      if data = [] then .error (.invalidDump .emptyRevolution)
      else .ok (Revolution.ofBits (byteBits data)) := by
  rw [parse_unmarked data unmarked]
  unfold parseBare
  dsimp only
  by_cases empty : data = []
  · rw [if_pos empty, empty]
    rfl
  · have nonempty : data.length ≠ 0 := fun zero => empty (List.eq_nil_of_length_eq_zero zero)
    rw [if_neg empty, if_neg (by omega), if_neg (by omega)]
    -- Bytes that are filled to the end are their own packing.
    have tight : Revolution.Tight ⟨data.toArray, 8 * data.length⟩ := by
      refine ⟨?_, fun i behind => ?_⟩
      · simp only [List.size_toArray]
        omega
      · have past : (byteBits data)[i]? = Option.none :=
          List.getElem?_eq_none (by simpa using behind)
        rw [Revolution.bit_at_bytes, past]
        rfl
    have cells : Revolution.toList ⟨data.toArray, 8 * data.length⟩ = byteBits data := by
      have bits := tight.byte_bits
      simp only [List.size_toArray, Nat.sub_self, List.replicate_zero, List.append_nil] at bits
      exact bits.symm
    rw [← cells, tight.of_bits]
    rfl

theorem shape_cases {p : List UInt8 → Prop} (bare : ∀ data, ¬ magic <+: data → p data)
    (cut : ∀ rest, rest.length < 4 → p (magic ++ rest))
    (counted : ∀ header body, header.length = 4 → p (magic ++ header ++ body))
    (data : List UInt8) : p data := by
  by_cases marked : magic <+: data
  · obtain ⟨rest, rfl⟩ := marked
    by_cases short : rest.length < 4
    · exact cut rest short
    · have four : (rest.take 4).length = 4 := by
        rw [List.length_take]
        omega
      have whole := counted (rest.take 4) (rest.drop 4) four
      rwa [List.append_assoc, List.take_append_drop] at whole
  · exact bare data marked

theorem Holds.filled {data : List UInt8} {cells : List Bool} (holds : Holds data cells) :
    0 < cells.length := by
  cases holds with
  | bare nonempty _ =>
    rw [byte_bits_length]
    have := List.length_pos_iff.mpr nonempty
    omega
  | counted _ positive held =>
    rw [List.length_take, byte_bits_length]
    omega

theorem Holds.fits {data : List UInt8} {cells : List Bool} (holds : Holds data cells)
    (short : data.length < 2 ^ 29) : cells.length < 2 ^ 32 := by
  cases holds with
  | bare nonempty _ =>
    rw [byte_bits_length]
    omega
  | @counted header body _ _ held =>
    simp only [List.length_append] at short
    rw [List.length_take, byte_bits_length]
    omega

theorem parse_held (data : List UInt8) (short : data.length < 2 ^ 29) {cells : List Bool}
    (holds : Holds data cells) : parse data = .ok (Revolution.ofBits cells) := by
  cases holds with
  | bare nonempty unmarked => rw [parse_bare data short unmarked, if_neg nonempty]
  | counted long positive held =>
    rw [parse_counted _ _ long, if_neg (Nat.ne_of_gt positive), if_pos held]

theorem parse_holds_or_fails (data : List UInt8) (short : data.length < 2 ^ 29) :
    (∃ cells, Holds data cells) ∨ ∃ fault, parse data = .error (.invalidDump fault) := by
  revert short
  refine shape_cases (p := fun data => data.length < 2 ^ 29 →
    (∃ cells, Holds data cells) ∨ ∃ fault, parse data = .error (.invalidDump fault)) ?_ ?_ ?_ data
  · intro data unmarked short
    by_cases empty : data = []
    · exact .inr ⟨_, (parse_bare data short unmarked).trans (if_pos empty)⟩
    · exact .inl ⟨_, .bare empty unmarked⟩
  · intro rest cut _
    exact .inr ⟨_, parse_cut rest cut⟩
  · intro header body long _
    by_cases uncounted : countOf header = 0
    · exact .inr ⟨_, (parse_counted header body long).trans (if_pos uncounted)⟩
    · by_cases held : countOf header ≤ 8 * body.length
      · exact .inl ⟨_, .counted long (Nat.pos_of_ne_zero uncounted) held⟩
      · have missing := parse_counted header body long
        rw [if_neg uncounted, if_neg held] at missing
        exact .inr ⟨_, missing⟩

theorem parse_ok_iff (data : List UInt8) (short : data.length < 2 ^ 29) (r : Revolution) :
    parse data = .ok r ↔ ∃ cells, Holds data cells ∧ r = Revolution.ofBits cells := by
  constructor
  · intro parsed
    rcases parse_holds_or_fails data short with ⟨cells, holds⟩ | ⟨fault, failed⟩
    · rw [parse_held data short holds] at parsed
      exact ⟨cells, holds, (Except.ok.inj parsed).symm⟩
    · cases failed.symm.trans parsed
  · rintro ⟨cells, holds, rfl⟩
    exact parse_held data short holds

-- Bytes of any number: a revolution that is read has cells.
theorem parse_some {data : List UInt8} {r : Revolution} (parsed : parse data = .ok r) :
    0 < r.length := by
  revert parsed
  refine shape_cases (p := fun data => parse data = .ok r → 0 < r.length) ?_ ?_ ?_ data
  · intro data unmarked parsed
    rw [parse_unmarked data unmarked, parseBare] at parsed
    split at parsed
    · cases parsed
    · rename_i counted
      split at parsed
      · cases parsed
      · cases parsed
        exact Nat.pos_of_ne_zero counted
  · intro rest cut parsed
    cases (parse_cut rest cut).symm.trans parsed
  · intro header body long parsed
    rw [parse_counted header body long] at parsed
    split at parsed
    · cases parsed
    · rename_i counted
      split at parsed
      · rename_i held
        cases parsed
        rw [Revolution.of_bits_length]
        exact (Holds.counted long (Nat.pos_of_ne_zero counted) held).filled
      · cases parsed

theorem parse_render (r : Revolution) (tight : r.Tight) (fits : r.length < 2 ^ 32) :
    parse (render r) =
      if r.length = 0 then .error (.invalidDump .emptyRevolution) else .ok r := by
  have size := tight.size
  have held : r.length ≤ 8 * r.packed.length := by
    rw [tight.packed, Array.length_toList]
    omega
  have cells : (byteBits r.packed).take r.length = r.toList := by
    rw [tight.packed, tight.byte_bits, List.take_left' (by simp)]
  rw [render, parse_counted _ _ rfl, count_long_bytes r.length fits, if_pos held, cells,
    tight.of_bits]

end Dump

theorem dumps_reread :
    (∀ data : List UInt8, data.length < 2 ^ 29 →
      ((∃ cells, Dump.Holds data cells) ∨
        ∃ fault, Dump.parse data = .error (.invalidDump fault)) ∧
      ∀ r, (Dump.parse data = .ok r ↔
          ∃ cells, Dump.Holds data cells ∧ r = Revolution.ofBits cells) ∧
        (Dump.parse data = .ok r → Dump.parse (Dump.render r) = .ok r)) ∧
    ∀ r : Revolution, r.Built → r.length < 2 ^ 32 →
      Dump.parse (Dump.render r) =
        if r.length = 0 then .error (.invalidDump .emptyRevolution) else .ok r := by
  refine ⟨fun data short => ⟨Dump.parse_holds_or_fails data short, fun r => ?_⟩, fun r built fits =>
    Dump.parse_render r built.tight fits⟩
  refine ⟨Dump.parse_ok_iff data short r, fun parsed => ?_⟩
  obtain ⟨cells, holds, rfl⟩ := (Dump.parse_ok_iff data short r).mp parsed
  have filled := holds.filled
  have fits := holds.fits short
  rw [Dump.parse_render _ (Revolution.of_bits_tight cells) (by rwa [Revolution.of_bits_length]),
    if_neg (by rw [Revolution.of_bits_length]; omega)]

-- Three cells, in a byte with more bits set and with another byte behind it.
def looseDump : List UInt8 := [0x42, 0x49, 0x54, 0x43, 0, 0, 0, 3, 0xbf, 0x17]

theorem loose_dump_reread :
    looseDump.length < 2 ^ 29 ∧
      Dump.parse looseDump = .ok (Revolution.ofBits [true, false, true]) ∧
      Dump.parse (Dump.render (Revolution.ofBits [true, false, true])) =
        .ok (Revolution.ofBits [true, false, true]) ∧
      ((Revolution.ofBits [true]).push false).length < 2 ^ 32 ∧
      Dump.parse (Dump.render ((Revolution.ofBits [true]).push false)) =
        .ok ((Revolution.ofBits [true]).push false) := by
  have short : looseDump.length < 2 ^ 29 := by decide
  have parsed : Dump.parse looseDump = .ok (Revolution.ofBits [true, false, true]) := by decide
  have fits : ((Revolution.ofBits [true]).push false).length < 2 ^ 32 := by decide
  obtain ⟨read, written⟩ := dumps_reread
  exact ⟨short, parsed, ((read looseDump short).2 _).2 parsed, fits,
    written _ (.push (.bits [true]) false) fits⟩

end FloppyTrack
