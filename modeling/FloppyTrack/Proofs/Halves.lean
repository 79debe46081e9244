import FloppyTrack.Checksum
import FloppyTrack.Proofs.Mark

set_option autoImplicit false

namespace FloppyTrack

def byteBits (data : List UInt8) : List Bool := data.flatMap fun byte => Bits.ofNat 8 byte.toNat

theorem byte_bits_cons (byte : UInt8) (data : List UInt8) :
    byteBits (byte :: data) = Bits.ofNat 8 byte.toNat ++ byteBits data := rfl

@[simp] theorem byte_bits_length (data : List UInt8) : (byteBits data).length = 8 * data.length := by
  induction data with
  | nil => rfl
  | cons byte data ih => simp only [byte_bits_cons, List.length_append, ih, Bits.of_nat_length,
      List.length_cons]; omega

theorem byte_bits_append (front back : List UInt8) :
    byteBits (front ++ back) = byteBits front ++ byteBits back :=
  List.flatMap_append

theorem byte_of_bits (a b : UInt8) (bits : Bits.ofNat 8 a.toNat = Bits.ofNat 8 b.toNat) : a = b := by
  rw [Bits.of_nat_eq_iff, Nat.mod_eq_of_lt a.toNat_lt, Nat.mod_eq_of_lt b.toNat_lt] at bits
  exact UInt8.toNat_inj.mp bits

theorem low_byte_bits (word : UInt32) :
    Bits.ofNat 8 word.toUInt8.toNat = Bits.ofNat 8 word.toNat := by
  rw [Bits.of_nat_eq_iff, UInt32.toNat_toUInt8, Nat.mod_mod]

theorem pair_bits (a c : UInt8) :
    Bits.ofNat 8 a.toNat ++ Bits.ofNat 8 c.toNat = Bits.ofNat 16 (a.toNat * 256 + c.toNat) := by
  have high : (a.toNat * 256 + c.toNat) >>> 8 = a.toNat := by
    have := c.toNat_lt
    rw [Nat.shiftRight_eq_div_pow]
    omega
  have low : Bits.ofNat 8 c.toNat = Bits.ofNat 8 (a.toNat * 256 + c.toNat) := by
    rw [Bits.of_nat_eq_iff]
    omega
  rw [Bits.of_nat_append 8 8, high, low]

theorem octet_bits (r : Revolution) (n k : Nat) : byteBits (r.octets n k) = r.stretch n (8 * k) := by
  induction k generalizing n with
  | zero => rfl
  | succ k ih =>
    have first : Bits.ofNat 8 (r.latest (n + 8)).toUInt8.toNat = r.stretch n 8 := by
      rw [low_byte_bits, Revolution.latest_cells r n 8 (by decide)]
    have more : 8 * (k + 1) = 8 + 8 * k := by omega
    rw [Revolution.octets, byte_bits_cons, first, more, Revolution.stretch_add, ih]

theorem data_cells_append (front back : List Bool) (n : Nat) (even : front.length = 2 * n) :
    dataCells (front ++ back) = dataCells front ++ dataCells back := by
  induction n generalizing front with
  | zero => rw [List.eq_nil_of_length_eq_zero even]; rfl
  | succ n ih =>
    match front, even with
    | clock :: bit :: rest, even =>
      rw [List.cons_append, List.cons_append, dataCells, dataCells, ih rest (by simp at even; omega)]
      rfl

theorem low_word_cells (r : Revolution) (n : Nat) :
    Bits.ofNat 16 (r.latest (n + 16)).toUInt16.toNat = r.stretch n 16 := by
  rw [← Revolution.latest_cells r n 16 (by decide), Bits.of_nat_eq_iff, UInt32.toNat_toUInt16,
    Nat.mod_mod]

theorem data_byte_bits (r : Revolution) (n : Nat) :
    Bits.ofNat 8 (r.byteAt n).toNat = r.dataBits n 8 := by
  have bits := Bits.of_nat_to_nat (r.dataBits n 8)
  rw [Revolution.data_bits_length] at bits
  rw [← bits, Revolution.byteAt, dataByte, low_word_cells, Revolution.data_cells_stretch r n 8,
    Bits.of_nat_eq_iff, UInt8.toNat_ofNat']
  simp

theorem byte_at_congr (r : Revolution) (j k : Nat) (same : j % r.length = k % r.length) :
    r.byteAt j = r.byteAt k := by
  apply byte_of_bits
  rw [data_byte_bits, data_byte_bits, Revolution.data_bits_congr r j k 8 same]

theorem data_octet_bits (r : Revolution) (n k : Nat) :
    dataCells (byteBits (r.octets n (2 * k))) = r.dataBits n (8 * k) := by
  have cells : 8 * (2 * k) = 2 * (8 * k) := by omega
  rw [octet_bits, cells, Revolution.data_cells_stretch]

theorem byte_bits_injective (a b : List UInt8) (same : a.length = b.length)
    (bits : byteBits a = byteBits b) : a = b := by
  induction a generalizing b with
  | nil => exact (List.eq_nil_of_length_eq_zero same.symm).symm
  | cons x a ih =>
    cases b with
    | nil => cases same
    | cons y b =>
      rw [byte_bits_cons, byte_bits_cons] at bits
      obtain ⟨first, rest⟩ := List.append_inj bits (by simp)
      rw [byte_of_bits x y first, ih b (Nat.succ.inj same) rest]

def Revolution.bytesFrom (r : Revolution) (n : Nat) : Nat → List UInt8
  | 0 => []
  | k + 1 => r.byteAt n :: r.bytesFrom (n + 16) k

@[simp] theorem bytes_from_length (r : Revolution) (n k : Nat) : (r.bytesFrom n k).length = k := by
  induction k generalizing n with
  | zero => rfl
  | succ k ih => rw [Revolution.bytesFrom, List.length_cons, ih]

theorem bytes_from_bits (r : Revolution) (n k : Nat) :
    byteBits (r.bytesFrom n k) = r.dataBits n (8 * k) := by
  induction k generalizing n with
  | zero => rfl
  | succ k ih =>
    have more : 8 * (k + 1) = 8 + 8 * k := by omega
    rw [Revolution.bytesFrom, byte_bits_cons, data_byte_bits, ih, more, Revolution.data_bits_add]

theorem bytes_from_append (r : Revolution) (n j k : Nat) :
    r.bytesFrom n (j + k) = r.bytesFrom n j ++ r.bytesFrom (n + 16 * j) k := by
  induction j generalizing n with
  | zero => simp [Revolution.bytesFrom]
  | succ j ih =>
    have front : j + 1 + k = j + k + 1 := by omega
    have place : n + 16 + 16 * j = n + 16 * (j + 1) := by omega
    rw [front, Revolution.bytesFrom, ih, Revolution.bytesFrom, List.cons_append, place]

theorem bytes_from_eq (r : Revolution) (n : Nat) (data : List UInt8)
    (bits : r.dataBits n (8 * data.length) = byteBits data) : r.bytesFrom n data.length = data :=
  byte_bits_injective _ _ (bytes_from_length r n _) ((bytes_from_bits r n _).trans bits)

theorem bytes_from_replicate {r : Revolution} {n k : Nat} {byte : UInt8} :
    r.bytesFrom n k = List.replicate k byte ↔ ∀ j, j < k → r.byteAt (n + 16 * j) = byte := by
  induction k generalizing n with
  | zero => simp [Revolution.bytesFrom]
  | succ k ih =>
    have place : ∀ j, n + 16 + 16 * j = n + 16 * (j + 1) := fun j => by omega
    simp only [Revolution.bytesFrom, List.replicate_succ, List.cons.injEq, ih, place,
      Nat.forall_lt_succ_left, Nat.mul_zero, Nat.add_zero]

theorem bytes_from_congr (r : Revolution) (j k n : Nat) (same : j % r.length = k % r.length) :
    r.bytesFrom j n = r.bytesFrom k n := by
  apply byte_bits_injective _ _ (by simp)
  rw [bytes_from_bits, bytes_from_bits, Revolution.data_bits_congr r j k _ same]

-- The data byte of sixteen cells.
def cellByte (cells : List Bool) : UInt8 := dataByte (UInt16.ofNat (Bits.toNat cells))

def cellBytes : Nat → List Bool → List UInt8
  | 0, _ => []
  | n + 1, cells => cellByte (cells.take 16) :: cellBytes n (cells.drop 16)

theorem byte_at_cells (r : Revolution) (n : Nat) : r.byteAt n = cellByte (r.stretch n 16) := by
  have small := (r.latest (n + 16)).toUInt16.toNat_lt
  rw [cellByte, ← low_word_cells, Bits.to_nat_of_nat, Nat.mod_eq_of_lt small, UInt16.ofNat_toNat,
    Revolution.byteAt]

theorem bytes_from_cells (r : Revolution) (n : Nat) {k m : Nat} (whole : 16 * k ≤ m) :
    r.bytesFrom n k = cellBytes k (r.stretch n m) := by
  induction k generalizing n m with
  | zero => rfl
  | succ k ih =>
    obtain ⟨rest, rfl⟩ : ∃ rest, m = 16 + rest := ⟨m - 16, by omega⟩
    rw [Revolution.bytesFrom, cellBytes, Revolution.stretch_add,
      List.take_left' (Revolution.stretch_length r n 16),
      List.drop_left' (Revolution.stretch_length r n 16), byte_at_cells,
      ih (n + 16) (m := rest) (by omega)]

theorem word_pair (high low : UInt8) :
    (high.toUInt16 <<< 8 ||| low.toUInt16).toNat = high.toNat * 256 + low.toNat := by
  have small := high.toNat_lt
  have whole : high.toNat * 256 % 2 ^ 16 = high.toNat * 256 := Nat.mod_eq_of_lt (by omega)
  rw [UInt16.toNat_or, UInt16.toNat_shiftLeft, UInt8.toNat_toUInt16, UInt8.toNat_toUInt16,
    show (8 : UInt16).toNat % 16 = 8 from rfl, Nat.shiftLeft_eq, whole]
  have joined := Nat.shiftLeft_add_eq_or_of_lt low.toNat_lt high.toNat
  rw [Nat.shiftLeft_eq] at joined
  exact joined.symm

theorem octet_pair (r : Revolution) (n : Nat) :
    dataByte ((r.latest (n + 8)).toUInt8.toUInt16 <<< 8 ||| (r.latest (n + 16)).toUInt8.toUInt16) =
      r.byteAt n := by
  have bits : Bits.ofNat 16 ((r.latest (n + 8)).toUInt8.toNat * 256 +
      (r.latest (n + 16)).toUInt8.toNat) = Bits.ofNat 16 (r.latest (n + 16)).toNat := by
    rw [← pair_bits, low_byte_bits, low_byte_bits, Revolution.latest_cells r n 8 (by decide),
      Revolution.latest_cells r (n + 8) 8 (by decide), Revolution.latest_cells r n 16 (by decide),
      ← Revolution.stretch_add r n 8 8]
  have same : (r.latest (n + 8)).toUInt8.toUInt16 <<< 8 ||| (r.latest (n + 16)).toUInt8.toUInt16 =
      (r.latest (n + 16)).toUInt16 := by
    have high := (r.latest (n + 8)).toUInt8.toNat_lt
    have low := (r.latest (n + 16)).toUInt8.toNat_lt
    rw [← UInt16.toNat_inj, word_pair, UInt32.toNat_toUInt16, ← (Bits.of_nat_eq_iff 16 _ _).mp bits]
    exact (Nat.mod_eq_of_lt (by omega)).symm
  rw [same, Revolution.byteAt]

theorem octets_decoded (r : Revolution) (n k : Nat) :
    dataBytes (r.octets n (2 * k)) = r.bytesFrom n k := by
  induction k generalizing n with
  | zero => rfl
  | succ k ih =>
    rw [Nat.mul_succ, Revolution.octets, Revolution.octets, dataBytes, octet_pair, ih]
    rfl

theorem join_bit (even odd : UInt8) (i : Nat) (within : i < 8) :
    (joinHalves even odd).toNat.testBit i =
      if i % 2 = 0 then odd.toNat.testBit i else even.toNat.testBit (i - 1) := by
  have mask : ∀ j, j < 8 → (0x55 : UInt8).toNat.testBit j = decide (j % 2 = 0) := by decide
  rw [joinHalves, UInt8.toNat_or, Nat.testBit_or, UInt8.toNat_shiftLeft, UInt8.toNat_and,
    UInt8.toNat_and, Nat.testBit_mod_two_pow, Nat.testBit_shiftLeft, Nat.testBit_and, Nat.testBit_and,
    mask i within, show (1 : UInt8).toNat % 8 = 1 from rfl, mask (i - 1) (by omega)]
  by_cases even : i % 2 = 0
  · rcases Nat.eq_zero_or_pos i with zero | positive
    · simp [zero]
    · simp [even, show (i - 1) % 2 = 1 by omega]
  · simp [even, within, show 1 ≤ i by omega, show (i - 1) % 2 = 0 by omega]

namespace Encoding

theorem odd_bits_byte (v : Nat) :
    oddBits 8 v = [v.testBit 6, v.testBit 4, v.testBit 2, v.testBit 0] := rfl

theorem even_bits_byte (v : Nat) :
    evenBits 8 v = [v.testBit 7, v.testBit 5, v.testBit 3, v.testBit 1] := by
  rw [evenBits, odd_bits_byte]
  simp only [Nat.testBit_div_two]

theorem odd_bits_join (even odd : UInt8) :
    oddBits 8 (joinHalves even odd).toNat = dataCells (Bits.ofNat 8 odd.toNat) := by
  rw [odd_bits_byte, join_bit, join_bit, join_bit, join_bit] <;> first | omega | rfl

theorem even_bits_join (even odd : UInt8) :
    evenBits 8 (joinHalves even odd).toNat = dataCells (Bits.ofNat 8 even.toNat) := by
  rw [even_bits_byte, join_bit, join_bit, join_bit, join_bit] <;> first | omega | rfl

theorem byte_of_halves (a b : UInt8) (even : evenBits 8 a.toNat = evenBits 8 b.toNat)
    (odd : oddBits 8 a.toNat = oddBits 8 b.toNat) : a = b := by
  simp only [even_bits_byte, List.cons.injEq, and_true] at even
  simp only [odd_bits_byte, List.cons.injEq, and_true] at odd
  exact byte_of_bits a b (by simp only [Bits.ofNat, even, odd])

def evens (data : List UInt8) : List Bool := data.flatMap fun byte => evenBits 8 byte.toNat

def odds (data : List UInt8) : List Bool := data.flatMap fun byte => oddBits 8 byte.toNat

theorem evens_cons (byte : UInt8) (data : List UInt8) :
    evens (byte :: data) = evenBits 8 byte.toNat ++ evens data := rfl

theorem odds_cons (byte : UInt8) (data : List UInt8) :
    odds (byte :: data) = oddBits 8 byte.toNat ++ odds data := rfl

theorem split_bits_halves (data : List UInt8) : splitBits data = evens data ++ odds data := rfl

@[simp] theorem evens_length (data : List UInt8) : (evens data).length = 4 * data.length := by
  induction data with
  | nil => rfl
  | cons byte data ih =>
    rw [evens_cons, List.length_append, ih, even_bits_byte, List.length_cons]
    simp
    omega

@[simp] theorem odds_length (data : List UInt8) : (odds data).length = 4 * data.length := by
  induction data with
  | nil => rfl
  | cons byte data ih =>
    rw [odds_cons, List.length_append, ih, odd_bits_byte, List.length_cons]
    simp
    omega

@[simp] theorem split_bits_length (data : List UInt8) : (splitBits data).length = 8 * data.length := by
  rw [split_bits_halves]
  simp
  omega

theorem halves_join (front back : List UInt8) (same : front.length = back.length) :
    evens (List.zipWith joinHalves front back) = dataCells (byteBits front) ∧
      odds (List.zipWith joinHalves front back) = dataCells (byteBits back) := by
  induction front generalizing back with
  | nil => rw [List.eq_nil_of_length_eq_zero same.symm]; exact ⟨rfl, rfl⟩
  | cons even front ih =>
    cases back with
    | nil => cases same
    | cons odd back =>
      have rest := ih back (Nat.succ.inj same)
      rw [List.zipWith_cons_cons, evens_cons, odds_cons, even_bits_join, odd_bits_join, rest.1, rest.2,
        byte_bits_cons, byte_bits_cons, data_cells_append _ _ 4 (by simp),
        data_cells_append _ _ 4 (by simp)]
      exact ⟨rfl, rfl⟩

theorem split_bits_join (n : Nat) (raw : List UInt8) (length : raw.length = 2 * n) :
    splitBits (joinSplit n raw) = dataCells (byteBits raw) := by
  have halves := halves_join (raw.take n) (raw.drop n) (by simp; omega)
  rw [split_bits_halves, joinSplit, halves.1, halves.2,
    ← data_cells_append _ _ (4 * n) (by simp; omega), ← byte_bits_append, List.take_append_drop]

theorem split_bits_injective (a b : List UInt8) (same : a.length = b.length)
    (bits : splitBits a = splitBits b) : a = b := by
  rw [split_bits_halves, split_bits_halves] at bits
  obtain ⟨even, odd⟩ := List.append_inj bits (by simp [same])
  clear bits
  induction a generalizing b with
  | nil => exact (List.eq_nil_of_length_eq_zero same.symm).symm
  | cons x a ih =>
    cases b with
    | nil => cases same
    | cons y b =>
      rw [evens_cons, evens_cons] at even
      rw [odds_cons, odds_cons] at odd
      obtain ⟨headEven, tailEven⟩ := List.append_inj even (by simp [even_bits_byte])
      obtain ⟨headOdd, tailOdd⟩ := List.append_inj odd (by simp [odd_bits_byte])
      rw [byte_of_halves x y headEven headOdd, ih b (Nat.succ.inj same) tailEven tailOdd]

theorem join_split_length (n : Nat) (raw : List UInt8) (length : raw.length = 2 * n) :
    (joinSplit n raw).length = n := by
  simp [joinSplit]
  omega

theorem long_bits_short (data : List UInt8) (short : data.length < 4) :
    longBits data = splitBits data := by
  match data, short with
  | [], _ | [_], _ | [_, _], _ | [_, _, _], _ => rfl

theorem long_bits_four (group data : List UInt8) (four : group.length = 4) :
    longBits (group ++ data) = splitBits group ++ longBits data := by
  match group, four with
  | [_, _, _, _], _ => rfl

theorem join_longs_short (n : Nat) (raw : List UInt8) (short : n < 4) :
    joinLongs n raw = joinSplit n (raw.take (2 * n)) := by
  match n, short with
  | 0, _ | 1, _ | 2, _ | 3, _ => rfl

theorem long_bits_append (front back : List UInt8) (groups : Nat) (whole : front.length = 4 * groups) :
    longBits (front ++ back) = longBits front ++ longBits back := by
  induction groups generalizing front with
  | zero => rw [List.eq_nil_of_length_eq_zero whole]; rfl
  | succ groups ih =>
    have four : (front.take 4).length = 4 := by simp; omega
    have rest := ih (front.drop 4) (by simp; omega)
    rw [← List.take_append_drop 4 front, List.append_assoc, long_bits_four _ _ four,
      long_bits_four _ _ four, rest, List.append_assoc]

@[simp] theorem long_bits_length (data : List UInt8) : (longBits data).length = 8 * data.length := by
  by_cases short : data.length < 4
  · rw [long_bits_short data short, split_bits_length]
  · have four : (data.take 4).length = 4 := by simp; omega
    have rest := long_bits_length (data.drop 4)
    rw [List.length_drop] at rest
    rw [← List.take_append_drop 4 data, long_bits_four _ _ four, List.length_append, split_bits_length,
      rest, four, List.take_append_drop]
    omega
termination_by data.length

theorem join_longs_length (n : Nat) (raw : List UInt8) (length : raw.length = 2 * n) :
    (joinLongs n raw).length = n := by
  by_cases short : n < 4
  · rw [join_longs_short n raw short, join_split_length n _ (by simp; omega)]
  · obtain ⟨m, rfl⟩ : ∃ m, n = m + 4 := ⟨n - 4, by omega⟩
    rw [joinLongs, List.length_append, join_split_length 4 _ (by simp; omega),
      join_longs_length m _ (by simp; omega)]
    omega

theorem long_bits_join (n : Nat) (raw : List UInt8) (length : raw.length = 2 * n) :
    longBits (joinLongs n raw) = dataCells (byteBits raw) := by
  by_cases short : n < 4
  · have all : raw.take (2 * n) = raw := List.take_of_length_le (by omega)
    rw [join_longs_short n raw short, all,
      long_bits_short _ (by rw [join_split_length n raw length]; exact short),
      split_bits_join n raw length]
  · obtain ⟨m, rfl⟩ : ∃ m, n = m + 4 := ⟨n - 4, by omega⟩
    have eight : (raw.take 8).length = 2 * 4 := by simp; omega
    rw [joinLongs, long_bits_four _ _ (join_split_length 4 _ eight), split_bits_join 4 _ eight,
      long_bits_join m (raw.drop 8) (by simp; omega),
      ← data_cells_append _ _ 32 (by rw [byte_bits_length, eight]), ← byte_bits_append,
      List.take_append_drop]

theorem long_bits_injective (a b : List UInt8) (same : a.length = b.length)
    (bits : longBits a = longBits b) : a = b := by
  by_cases short : a.length < 4
  · rw [long_bits_short a short, long_bits_short b (by omega)] at bits
    exact split_bits_injective a b same bits
  · have fourA : (a.take 4).length = 4 := by simp; omega
    have fourB : (b.take 4).length = 4 := by simp; omega
    rw [← List.take_append_drop 4 a, ← List.take_append_drop 4 b, long_bits_four _ _ fourA,
      long_bits_four _ _ fourB] at bits
    obtain ⟨head, tail⟩ := List.append_inj bits (by simp [fourA, fourB])
    rw [← List.take_append_drop 4 a, ← List.take_append_drop 4 b,
      split_bits_injective _ _ (fourA.trans fourB.symm) head,
      long_bits_injective (a.drop 4) (b.drop 4) (by simp [same]) tail]
termination_by a.length

-- What is joined from the bytes of a turn shows the data bits that these were read from.
theorem split_read (r : Revolution) (n : Nat) {k raw : Nat} (twice : raw = 2 * k) :
    (joinSplit k (r.octets n raw)).length = k ∧
      splitBits (joinSplit k (r.octets n raw)) = r.dataBits n (8 * k) := by
  subst twice
  have length : (r.octets n (2 * k)).length = 2 * k := Revolution.octets_length ..
  exact ⟨join_split_length k _ length, (split_bits_join k _ length).trans (data_octet_bits r n k)⟩

theorem longs_read (r : Revolution) (n : Nat) {k raw : Nat} (twice : raw = 2 * k) :
    (joinLongs k (r.octets n raw)).length = k ∧
      longBits (joinLongs k (r.octets n raw)) = r.dataBits n (8 * k) := by
  subst twice
  have length : (r.octets n (2 * k)).length = 2 * k := Revolution.octets_length ..
  exact ⟨join_longs_length k _ length, (long_bits_join k _ length).trans (data_octet_bits r n k)⟩

end Encoding

end FloppyTrack
