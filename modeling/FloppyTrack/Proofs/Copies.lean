import FloppyTrack.Proofs.Halves
import FloppyTrack.Proofs.Placement

set_option autoImplicit false

namespace FloppyTrack

def copies {α : Type} (n : Nat) (block : List α) : List α := (List.replicate n block).flatten

section
variable {α : Type} (block : List α)

@[simp] theorem copies_zero : copies 0 block = [] := rfl

theorem copies_succ (n : Nat) : copies (n + 1) block = block ++ copies n block := by
  rw [copies, List.replicate_succ, List.flatten_cons, copies]

theorem copies_succ_right (n : Nat) : copies (n + 1) block = copies n block ++ block := by
  rw [copies, List.replicate_succ', List.flatten_append, List.flatten_singleton, copies]

theorem copies_add (m n : Nat) : copies (m + n) block = copies m block ++ copies n block := by
  rw [copies, ← List.replicate_append_replicate, List.flatten_append, copies, copies]

@[simp] theorem copies_length (n : Nat) : (copies n block).length = n * block.length := by
  simp [copies, List.length_flatten]

theorem copies_one (n : Nat) (a : α) : copies n [a] = List.replicate n a := by
  induction n with
  | zero => rfl
  | succ n ih => rw [copies_succ, ih, List.replicate_succ, List.singleton_append]

theorem copies_copies (m n : Nat) : copies m (copies n block) = copies (m * n) block := by
  induction m with
  | zero => simp
  | succ m ih => rw [copies_succ, ih, ← copies_add, Nat.succ_mul, Nat.add_comm]

end

section
variable {α : Type} {pattern front block back : List α}

-- A window over one copy more than it is long lies beside the first copy or beside the last.
theorem infix_with_less {n : Nat} (short : pattern.length ≤ n * block.length)
    (inside : pattern <:+: front ++ copies (n + 2) block ++ back) :
    pattern <:+: front ++ copies (n + 1) block ++ back := by
  obtain ⟨before, after, whole⟩ := inside
  have size : (copies n block).length = n * block.length := copies_length block n
  by_cases early : before.length < front.length + block.length
  · have cut : front ++ copies (n + 2) block ++ back =
        (front ++ copies (n + 1) block) ++ (block ++ back) := by
      rw [copies_succ_right block (n + 1)]
      simp
    rw [cut] at whole
    have fits : (before ++ pattern).length ≤ (front ++ copies (n + 1) block).length := by
      rw [List.length_append, List.length_append, copies_succ, List.length_append]
      omega
    obtain ⟨rest, joined⟩ := List.prefix_of_prefix_length_le ⟨after, whole⟩ ⟨_, rfl⟩ fits
    exact ⟨before, rest ++ back, by rw [← joined]; simp⟩
  · have cut : front ++ copies (n + 2) block ++ back =
        (front ++ block) ++ (copies (n + 1) block ++ back) := by
      rw [copies_succ block (n + 1)]
      simp
    rw [cut, List.append_assoc] at whole
    have late : (front ++ block).length ≤ before.length := by
      rw [List.length_append]
      omega
    obtain ⟨between, joined⟩ := List.prefix_of_prefix_length_le ⟨_, rfl⟩ ⟨_, whole⟩ late
    rw [← joined, List.append_assoc, List.append_cancel_left_eq] at whole
    exact ⟨front ++ between, after, by rw [List.append_assoc front (copies _ _), ← whole]; simp⟩

theorem apart_of_few {few many : Nat} (short : pattern.length ≤ few * block.length)
    (enough : few < many) (apart : ¬ pattern <:+: front ++ copies (few + 1) block ++ back) :
    ¬ pattern <:+: front ++ copies many block ++ back := by
  obtain ⟨more, rfl⟩ : ∃ more, many = few + more + 1 := ⟨many - (few + 1), by omega⟩
  clear enough
  induction more with
  | zero => exact apart
  | succ more ih =>
    intro inside
    exact ih (infix_with_less
      (Nat.le_trans short (Nat.mul_le_mul_right _ (Nat.le_add_right few more))) inside)

theorem apart_of_few_runs {other : List α} {few many fewer more : Nat}
    (short : pattern.length ≤ few * block.length) (enough : few < many)
    (shorter : pattern.length ≤ fewer * other.length) (plenty : fewer < more)
    (apart : ¬ pattern <:+: front ++ copies (few + 1) block ++ copies (fewer + 1) other ++ back) :
    ¬ pattern <:+: front ++ copies many block ++ copies more other ++ back := by
  rw [List.append_assoc] at apart
  have first := apart_of_few short enough apart
  rw [← List.append_assoc] at first
  exact apart_of_few shorter plenty first

end

theorem byte_bits_replicate (n : Nat) (byte : UInt8) :
    byteBits (List.replicate n byte) = copies n (Bits.ofNat 8 byte.toNat) := by
  rw [byteBits, copies, List.flatMap_def, List.map_replicate]

theorem byte_bits_zeros (n : Nat) : byteBits (List.replicate n 0) = List.replicate (8 * n) false := by
  have eight : Bits.ofNat 8 (0 : UInt8).toNat = copies 8 [false] := rfl
  rw [byte_bits_replicate, eight, copies_copies, copies_one, Nat.mul_comm]

theorem last_append {α : Type} (last : α) (front back : List α) :
    (front ++ back).getLastD last = back.getLastD (front.getLastD last) := by
  simp only [List.getLastD_eq_getLast?, List.getLast?_append]
  cases back.getLast? <;> rfl

theorem last_copies {α : Type} (last : α) (block : List α) (again : block.getLastD last = last)
    (n : Nat) : (copies n block).getLastD last = last := by
  induction n with
  | zero => rfl
  | succ n ih => rw [copies_succ, last_append, again, ih]

-- A block whose last bit is the one in front of it has the same clocks in every copy.
theorem mfm_copies (last : Bool) (block : List Bool) (again : block.getLastD last = last) (n : Nat) :
    mfmCells last (copies n block) = copies n (mfmCells last block) := by
  induction n with
  | zero => rfl
  | succ n ih => rw [copies_succ, mfm_cells_append, again, ih, ← copies_succ]

theorem mfm_zeros (n : Nat) :
    mfmCells false (List.replicate n false) = copies n [true, false] := by
  rw [← copies_one, mfm_copies false [false] rfl]
  rfl

end FloppyTrack
