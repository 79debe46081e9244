import FloppyTrack.Reader
import FloppyTrack.Proofs.Replay

set_option autoImplicit false

namespace FloppyTrack

namespace Reader

def Takes {α : Type} (x : Reader α) (r : Revolution) (R n : Nat) (a : α) (m : Nat) : Prop :=
  ∀ c : Cursor, c.Stands r R n → (x.run c).1 = a ∧ (x.run c).2.Stands r R m

def Gives {α : Type} (x : Reader α) (r : Revolution) (R n : Nat) (p : α → Prop) : Prop :=
  ∃ a m, x.Takes r R n a m ∧ p a

-- What is returned together with the place where the read stops.
def Ends {α : Type} (x : Reader α) (r : Revolution) (R n : Nat) (p : α → Nat → Prop) : Prop :=
  ∃ a m, x.Takes r R n a m ∧ p a m

-- A check passes exactly where what it asks for stands, and stops behind that.
def Checks {ε α : Type} (x : Reader (Except ε α)) (r : Revolution) (R n extent : Nat)
    (holds : α → Prop) : Prop :=
  x.Ends r R n fun result stop => ∀ a,
    (result = .ok a → stop = n + extent ∧ n + extent ≤ R * r.length ∧ holds a) ∧
      (n + extent ≤ R * r.length → holds a → result = .ok a)

-- What a reader does depends on the place where it starts and on nothing else that a cursor holds.
def Steady {α : Type} (x : Reader α) : Prop :=
  ∀ (r : Revolution) (R n : Nat), 0 < R → n ≤ R * r.length → ∃ a m, x.Takes r R n a m

section
variable {α β : Type} {r : Revolution} {R n m : Nat}

theorem takes_pure (a : α) : (pure a : Reader α).Takes r R n a n := fun _ stands => ⟨rfl, stands⟩

theorem takes_bind {x : Reader α} {f : α → Reader β} {a : α} {b : β} {k : Nat}
    (first : x.Takes r R n a m) (second : (f a).Takes r R m b k) : (x >>= f).Takes r R n b k := by
  intro c stands
  obtain ⟨value, reached⟩ := first c stands
  rw [run_bind, value]
  exact second _ reached

theorem takes_asks {f : Cursor → α} {a : α} (same : ∀ c : Cursor, c.Stands r R n → f c = a) :
    (asks f).Takes r R n a n :=
  fun c stands => ⟨same c stands, stands⟩

theorem takes_bits (k : Nat) (room : n + k ≤ R * r.length) :
    (bits k).Takes r R n (some (r.latest (n + k))) (n + k) :=
  fun _ stands => stands.bits_within k room

theorem takes_no_bits (k : Nat) (short : R * r.length < n + k) :
    (bits k).Takes r R n none (R * r.length) :=
  fun _ stands => stands.bits_beyond k short

theorem takes_bytes (k : Nat) (room : n + 8 * k ≤ R * r.length) :
    (bytes? k).Takes r R n (some (r.octets n k)) (n + 8 * k) := by
  intro c stands
  obtain ⟨value, reached⟩ := stands.bytes_within k room
  refine ⟨?_, reached⟩
  change (if (c.bytes k).1.length = k then some (c.bytes k).1 else none) = _
  rw [value, if_pos (Revolution.octets_length r n k)]

theorem takes_no_bytes (k : Nat) (short : R * r.length < n + 8 * k) :
    (bytes? k).Takes r R n none (R * r.length) := by
  intro c stands
  obtain ⟨fewer, reached⟩ := stands.bytes_beyond k short
  refine ⟨?_, reached⟩
  change (if (c.bytes k).1.length = k then some (c.bytes k).1 else none) = _
  rw [if_neg (Nat.ne_of_lt fewer)]

theorem takes_byte (room : n + 16 ≤ R * r.length) :
    byte?.Takes r R n (some (r.byteAt n)) (n + 16) :=
  takes_bind (takes_bits 16 room) (takes_pure _)

theorem takes_no_byte (short : R * r.length < n + 16) :
    byte?.Takes r R n none (R * r.length) :=
  takes_bind (takes_no_bits 16 short) (takes_pure _)

theorem takes_within {x : Reader α} {a : α} (takes : x.Takes r R n a m) (within : n ≤ R * r.length) :
    n ≤ m ∧ m ≤ R * r.length := by
  obtain ⟨c, start⟩ := Cursor.Stands.at_every_place within
  obtain ⟨-, reached⟩ := takes c start
  have forward := (x.forward c).remaining_le
  have inside := reached.within
  rw [start.remaining, reached.remaining] at forward
  exact ⟨by omega, inside⟩

theorem takes_unique {x : Reader α} {a b : α} {j k : Nat} (within : n ≤ R * r.length)
    (one : x.Takes r R n a j) (other : x.Takes r R n b k) : a = b ∧ j = k := by
  obtain ⟨c, start⟩ := Cursor.Stands.at_every_place within
  obtain ⟨first, reached⟩ := one c start
  obtain ⟨second, stopped⟩ := other c start
  exact ⟨first.symm.trans second, reached.read.symm.trans stopped.read⟩

theorem ends_pure {p : α → Nat → Prop} {a : α} (holds : p a n) : (pure a : Reader α).Ends r R n p :=
  ⟨a, n, takes_pure a, holds⟩

theorem ends_bind {x : Reader α} {f : α → Reader β} {a : α} {p : β → Nat → Prop}
    (first : x.Takes r R n a m) (second : (f a).Ends r R m p) : (x >>= f).Ends r R n p := by
  obtain ⟨b, k, goesOn, holds⟩ := second
  exact ⟨b, k, takes_bind first goesOn, holds⟩

theorem ends_gives {x : Reader α} {p : α → Nat → Prop} {q : α → Prop} (ends : x.Ends r R n p)
    (weaker : ∀ a k, p a k → q a) : x.Gives r R n q := by
  obtain ⟨a, k, takes, holds⟩ := ends
  exact ⟨a, k, takes, weaker a k holds⟩

theorem ends_failed {ε : Type} {e : ε} {extent : Nat} {holds : α → Prop}
    (missing : n + extent ≤ R * r.length → ∀ a, ¬ holds a) :
    (pure (.error e) : Reader (Except ε α)).Ends r R m fun result stop => ∀ a,
      (result = .ok a → stop = n + extent ∧ n + extent ≤ R * r.length ∧ holds a) ∧
        (n + extent ≤ R * r.length → holds a → result = .ok a) := by
  refine ends_pure fun a => ⟨fun passed => ?_, fun room stands => absurd stands (missing room a)⟩
  cases passed

theorem checks_takes {ε : Type} {x : Reader (Except ε α)} {extent : Nat} {holds : α → Prop} {a : α}
    (checks : x.Checks r R n extent holds) (room : n + extent ≤ R * r.length) (stands : holds a) :
    x.Takes r R n (.ok a) (n + extent) := by
  obtain ⟨result, stop, takes, each⟩ := checks
  have passed := (each a).2 room stands
  have place := ((each a).1 passed).1
  rwa [passed, place] at takes

theorem steady_ends {x : Reader α} {p : α → Nat → Prop} (ends : x.Ends r R n p) :
    ∃ a m, x.Takes r R n a m := by
  obtain ⟨a, m, takes, -⟩ := ends
  exact ⟨a, m, takes⟩

theorem ends_takes {x : Reader α} {a : α} {p : α → Nat → Prop} (within : n ≤ R * r.length)
    (ends : x.Ends r R n p) (takes : x.Takes r R n a m) : p a m := by
  obtain ⟨b, k, other, holds⟩ := ends
  obtain ⟨rfl, rfl⟩ := takes_unique within takes other
  exact holds

theorem gives_pure {p : α → Prop} {a : α} (holds : p a) : (pure a : Reader α).Gives r R n p :=
  ends_pure (p := fun a _ => p a) holds

theorem gives_bind {x : Reader α} {f : α → Reader β} {a : α} {p : β → Prop}
    (first : x.Takes r R n a m) (second : (f a).Gives r R m p) : (x >>= f).Gives r R n p :=
  ends_bind (p := fun b _ => p b) first second

theorem gives_imp {x : Reader α} {p q : α → Prop} (gives : x.Gives r R n p)
    (weaker : ∀ a, p a → q a) : x.Gives r R n q :=
  ends_gives (p := fun a _ => p a) gives fun a _ => weaker a

theorem gives_takes {x : Reader α} {a : α} {p : α → Prop} (within : n ≤ R * r.length)
    (gives : x.Gives r R n p) (takes : x.Takes r R n a m) : p a :=
  ends_takes (p := fun a _ => p a) within gives takes

theorem steady_pure (a : α) : (pure a : Reader α).Steady :=
  fun _ _ n _ _ => ⟨a, n, takes_pure a⟩

theorem steady_bind {x : Reader α} {f : α → Reader β} (first : x.Steady)
    (second : ∀ a, (f a).Steady) : (x >>= f).Steady := by
  intro r R n turns within
  obtain ⟨a, m, takes⟩ := first r R n turns within
  obtain ⟨b, k, goesOn⟩ := second a r R m turns (takes_within takes within).2
  exact ⟨b, k, takes_bind takes goesOn⟩

theorem steady_bits (k : Nat) : (bits k).Steady := by
  intro r R n _ _
  by_cases room : n + k ≤ R * r.length
  · exact ⟨_, _, takes_bits k room⟩
  · exact ⟨_, _, takes_no_bits k (Nat.lt_of_not_le room)⟩

theorem steady_bytes (k : Nat) : (bytes? k).Steady := by
  intro r R n _ _
  by_cases room : n + 8 * k ≤ R * r.length
  · exact ⟨_, _, takes_bytes k room⟩
  · exact ⟨_, _, takes_no_bytes k (Nat.lt_of_not_le room)⟩

theorem steady_byte : byte?.Steady := steady_bind (steady_bits 16) fun _ => steady_pure _

theorem takes_start_of_last (r : Revolution) (R n bits : Nat) :
    ∃ offset, (asks (·.startOfLast bits)).Takes r R n offset n := by
  by_cases within : n ≤ R * r.length
  · obtain ⟨c, stands⟩ := Cursor.Stands.at_every_place within
    refine ⟨c.startOfLast bits, takes_asks fun d other => ?_⟩
    exact other.start_of_last_same stands bits
  · exact ⟨0, takes_asks fun c stands => absurd stands.within within⟩

theorem takes_start {place bits : Nat} (cells : 0 < r.length)
    (behind : n % r.length = (place + bits) % r.length) :
    (asks (·.startOfLast bits)).Takes r R n (place % r.length) n := by
  refine takes_asks fun c stands => ?_
  obtain ⟨small, same⟩ := stands.start_of_last_turn cells bits
  rw [← Nat.mod_eq_of_lt small]
  exact Nat.ModEq.add_right_cancel' bits (same.trans behind)

theorem steady_start_of_last (bits : Nat) : (asks (·.startOfLast bits)).Steady := by
  intro r R n _ _
  obtain ⟨offset, takes⟩ := takes_start_of_last r R n bits
  exact ⟨offset, n, takes⟩

end

end Reader

end FloppyTrack
