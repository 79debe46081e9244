import FloppyTrack.Proofs.LongTrack.FixedFill

set_option autoImplicit false

namespace FloppyTrack

namespace Emission

variable {e : Emission}

theorem window_on_turn (wide : 32 ≤ e.total) (n : Nat) {k : Nat} (short : k ≤ 32) :
    e.toRevolution.stretch n k <:+: e.filled.toList ++ e.filled.toList.take 32 := by
  obtain ⟨d, near, place⟩ := e.distance (by omega) n
  have moved : e.toRevolution.stretch n k = e.toRevolution.stretch (e.offset + d) k := by
    apply Revolution.stretch_congr
    rw [Emission.to_revolution_length, place]
  have size : e.filled.toList.length = e.total := by simp
  -- The window starts on the first turn, and 32 cells of the next are all that it can reach.
  have doubled : e.filled.toList ++ e.filled.toList =
      [] ++ (e.filled.toList ++ e.filled.toList.take 32) ++ e.filled.toList.drop 32 := by
    rw [List.nil_append, List.append_assoc, List.take_append_drop]
  rw [moved, e.stretch_turned (by omega) d k (by omega), doubled]
  apply window_inside
  · exact Nat.zero_le d
  · rw [List.length_nil, List.length_append, List.length_take_of_le (by omega), size]
    omega

theorem unseen {mark : Sync} (proper : mark.Proper) (starts : mark.core.head? = some true)
    (wide : 32 ≤ e.total) (apart : ¬ mark.core <:+: e.filled.toList ++ e.filled.toList.take 32)
    (n : Nat) : mark.seenAt e.toRevolution n = false := by
  rw [Bool.eq_false_iff]
  intro seen
  obtain ⟨-, shown⟩ := Sync.seen_core proper mark.core_cells starts seen
  apply apart
  rw [← shown]
  exact window_on_turn wide _ (Sync.core_short proper)

end Emission

namespace LongTrack

section
variable {t : LongTrack} {byte : UInt8} {count gap : Nat}

-- A turn with four bytes of the fill and seventeen zeros, and its first cells again.
def sample (t : LongTrack) (byte : UInt8) : List Bool :=
  t.turnCells byte 3 17 ++ (t.turnCells byte 3 17).take 32

theorem turn_starts (t : LongTrack) (byte : UInt8) (gap : Nat) (many : 3 ≤ count) :
    (t.turnCells byte count gap).take 32 = (t.turnCells byte 3 17).take 32 := by
  have parts : ∀ more gap, (t.turnCells byte (3 + more) gap).take 32 =
      (t.lead ++ mfmCells (t.lead.getLastD false) (byteBits t.signature ++ Bits.ofNat 8 byte.toNat) ++
        copies 3 (fillCells byte)).take 32 := by
    intro more gap
    rw [turnCells, behindMark, copies_add]
    simp only [← List.append_assoc]
    rw [List.append_assoc _ (copies more _), List.take_append_of_le_length]
    have filled : (copies 3 (fillCells byte)).length = 48 := by
      rw [copies_length, fillCells, mfm_cells_length, Bits.of_nat_length]
    rw [List.length_append, filled]
    omega
  obtain ⟨more, rfl⟩ := Nat.exists_eq_add_of_le many
  rw [parts, ← parts 0 17]

theorem turn_sampled {pattern : List Bool} (short : pattern.length ≤ 32) (many : 3 ≤ count)
    (wide : 17 ≤ gap) (apart : ¬ pattern <:+: t.sample byte) :
    ¬ pattern <:+: t.turnCells byte count gap ++ (t.turnCells byte count gap).take 32 := by
  rw [turn_starts t byte gap many]
  rw [sample] at apart
  generalize (t.turnCells byte 3 17).take 32 = back at apart ⊢
  simp only [turnCells, behindMark, ← List.append_assoc] at apart ⊢
  have fill : pattern.length ≤ 2 * (fillCells byte).length := by
    rw [fillCells, mfm_cells_length, Bits.of_nat_length]
    exact short
  exact apart_of_few_runs fill many short wide apart

theorem turn_unseen {track : Track} (known : t.fillByte track = byte)
    (even : byte.toNat.testBit 0 = false) (led : t.lead.length = t.markBits)
    (fills : t.Fills track.total gap) {other : Sync} (proper : other.Proper)
    (starts : other.core.head? = some true) (apart : ¬ other.core <:+: t.sample byte) (n : Nat) :
    other.seenAt (t.codec.emit track).toRevolution n = false := by
  obtain ⟨count, many, whole⟩ := turn_cells known even led fills
  have total := (emit_leads t track).2.1
  have turn := fills.turn
  have wide := fills.wide
  refine Emission.unseen proper starts (by omega) ?_ n
  rw [whole]
  exact turn_sampled (Sync.core_short proper) many fills.wide apart

end

section
variable {t : LongTrack} {mark : Sync} {r : Revolution}

theorem outcome_declined (marked : t.mark = some mark) (start : Track)
    (gives : ∀ m, mark.seenAt r m = true → m ≤ Cursor.defaultRevolutions * r.length →
      t.look.Gives r Cursor.defaultRevolutions m (Finding.Declines t.format)) :
    t.codec.outcome start r = .error (.noMatch t.format) := by
  rw [outcome_scan marked, (search_course t mark r).none_given gives]
  rfl

theorem outcome_unseen (marked : t.mark = some mark) (start : Track)
    (unseen : ∀ n, mark.seenAt r n = false) :
    t.codec.outcome start r = .error (.noMatch t.format) := by
  refine outcome_declined marked start ?_
  intro m seen
  rw [unseen] at seen
  cases seen

theorem look_unsigned {R n : Nat} (signed : t.signature ≠ [])
    (differs : r.bytesFrom n t.signature.length ≠ t.signature) :
    t.look.Gives r R n (Finding.Declines t.format) := by
  obtain ⟨offset, asked⟩ := Reader.takes_start_of_last r R n t.markBits
  have unsigned : ∃ stop, t.readSignature.Takes r R n (.error .signature) stop := by
    unfold readSignature
    rw [if_neg (by simpa using signed)]
    by_cases room : n + 8 * (2 * t.signature.length) ≤ R * r.length
    · refine ⟨n + 8 * (2 * t.signature.length), Reader.takes_bind (Reader.takes_bytes _ room) ?_⟩
      have decoded : Encoding.mfm.decodeBlock t.signature.length
          (r.octets n (2 * t.signature.length)) ≠ t.signature := by
        change dataBytes (List.take _ _) ≠ _
        rwa [List.take_of_length_le (by simp), octets_decoded]
      dsimp only
      rw [if_neg decoded]
      exact Reader.takes_pure _
    · exact ⟨_, Reader.takes_bind (Reader.takes_no_bytes _ (Nat.lt_of_not_le room))
        (Reader.takes_pure _)⟩
  obtain ⟨stop, first⟩ := unsigned
  exact Reader.gives_bind asked (Reader.gives_bind first (Reader.gives_pure trivial))

end

-- The mark of Crystals Of Arborea ends like that of Infogrames, and zeros make up the rest of it.
theorem crystals_unsigned {track : Track} (total : track.total = infogrames.committed)
    (start : Track) :
    crystals.codec.outcome start (infogrames.codec.emit track).toRevolution =
      .error (.noMatch .crystals) := by
  have marked : crystals.mark = some (.long 0xaaaaa144) := rfl
  have fills : infogrames.Fills track.total 342 := by
    rw [total]
    constructor <;> decide
  obtain ⟨rest, stamped⟩ := infogrames_alone.stamped fills
  obtain ⟨-, turn, offset⟩ := emit_lays infogrames_alone.marked track
  have length := emit_length infogrames_alone.marked track
  refine outcome_declined marked start fun m seen _ => look_unsigned (by decide) ?_
  have cells : (Sync.long 0xaaaaa144).cells = Bits.ofNat 16 0xaaaa ++ Bits.ofNat 16 0xa144 := by decide
  obtain ⟨behind, shown⟩ := Sync.seen_core ⟨.inr rfl, by decide⟩ cells (by decide) seen
  have own : (Sync.short 0xa144).seenAt (infogrames.codec.emit track).toRevolution m = true := by
    obtain ⟨n, rfl⟩ := Nat.exists_eq_add_of_le' behind
    rw [Nat.add_sub_cancel] at shown
    exact (Sync.seen_iff infogrames_alone.proper n).mpr shown
  have place : m % track.total = (track.offset + infogrames.markBits) % track.total := by
    rw [← turn, ← offset]
    exact stamped.seen_places infogrames_alone.proper own
  rw [← length] at place
  have zeros := payload_placed infogrames_alone.marked track 4
    (by rw [payload_length, total]; decide) (by rw [total]; decide)
  have filled : (infogrames.payload track).take 4 = [0, 0, 0, 0] := by
    rw [payload, total]
    rfl
  have four : crystals.signature.length = 4 := rfl
  rw [four, bytes_from_congr _ _ _ _ place, zeros, filled]
  decide

def fixedByte (t : LongTrack) : UInt8 :=
  match t.fill with
  | .fixed byte => byte
  | .captured => 0

-- The formats whose codecs try a track before that of `t` does.
def earlier (t : LongTrack) : List LongTrack := all.takeWhile (· ≠ t)

-- The format that a regenerated track of `t` is taken for.
def told (t : LongTrack) : LongTrack := if t = tiertex then gremlin else t

theorem marks_apart : ∀ t ∈ fixedFills, ∀ other ∈ t.told.earlier, ∀ mark ∈ other.mark,
    t = infogrames ∧ other = crystals ∨ ¬ mark.core <:+: t.sample t.fixedByte := by
  decide +kernel

theorem fixed_fills (t : LongTrack) (listed : t ∈ fixedFills) : ∃ gap, t.Fills t.committed gap := by
  rcases alone_fills t listed with rfl | ⟨mark, byte, lead, clear, core, gap, alone, fills⟩
  · exact ⟨54968, by constructor <;> decide⟩
  · exact ⟨gap, fills⟩

theorem earlier_unseen {t other : LongTrack} (listed : t ∈ fixedFills) (track : Track)
    (total : track.total = t.committed) (tried : other ∈ t.told.earlier) {mark : Sync}
    (marked : other.mark = some mark) (apart : ¬ (t = infogrames ∧ other = crystals)) (n : Nat) :
    mark.seenAt (t.codec.emit track).toRevolution n = false := by
  have table : ∀ t ∈ fixedFills, t.fill = .fixed t.fixedByte ∧ t.fixedByte.toNat.testBit 0 = false ∧
      t.lead.length = t.markBits := by
    decide
  obtain ⟨fixed, even, led⟩ := table t listed
  have known : t.fillByte track = t.fixedByte := by rw [fillByte, fixed]
  obtain ⟨gap, fills⟩ := fixed_fills t listed
  rw [← total] at fills
  obtain ⟨proper, starts⟩ := marks_start other ((List.takeWhile_prefix _).subset tried) marked
  exact turn_unseen known even led fills proper starts
    ((marks_apart t listed other tried mark marked).resolve_left apart) n

theorem earlier_declines {t other : LongTrack} (listed : t ∈ fixedFills) (track : Track)
    (total : track.total = t.committed) (tried : other ∈ t.told.earlier) (start : Track) :
    other.codec.outcome start (t.codec.emit track).toRevolution = .error (.noMatch other.format) := by
  have table : ∀ t ∈ fixedFills, ∀ other ∈ t.told.earlier, other.mark.isSome := by decide
  obtain ⟨mark, marked⟩ := Option.isSome_iff_exists.mp (table t listed other tried)
  by_cases apart : t = infogrames ∧ other = crystals
  · obtain ⟨rfl, rfl⟩ := apart
    exact crystals_unsigned total start
  · exact outcome_unseen marked start (earlier_unseen listed track total tried marked apart)

end LongTrack

end FloppyTrack
