import FloppyTrack.Proofs.LongTrack

set_option autoImplicit false

namespace FloppyTrack

theorem byte_bits_of_bytes {r : Revolution} {n : Nat} {data : List UInt8}
    (shown : r.bytesFrom n data.length = data) :
    dataCells (r.stretch n (16 * data.length)) = byteBits data := by
  have cells : 16 * data.length = 2 * (8 * data.length) := by omega
  rw [cells, Revolution.data_cells_stretch, ← bytes_from_bits, shown]

namespace LongTrack

structure Stands (t : LongTrack) (mark : Sync) (source : Revolution) (n : Nat) (byte : UInt8) :
    Prop where
  within : n + 16 * (t.signature.length + t.checked) ≤ 3 * source.length
  mark : mark.cells <:+ List.replicate 32 false ++ source.stretch 0 n
  signature : dataCells (source.stretch n (16 * t.signature.length)) = byteBits t.signature
  known : t.fill = .captured ∨ t.fill = .fixed byte
  fill : dataCells (source.stretch (n + 16 * t.signature.length) (16 * t.checked)) =
    byteBits (List.replicate t.checked byte)
  long : ∀ minimum, t.minimum = some minimum → minimum ≤ source.length

theorem shows_stands {t : LongTrack} {mark : Sync} {source : Revolution} {n : Nat} {byte : UInt8}
    (proper : mark.Proper) (seen : mark.seenAt source n = true)
    (shows : t.Shows source Cursor.defaultRevolutions n byte) : t.Stands mark source n byte := by
  refine ⟨shows.room, Sync.seen_history proper seen, byte_bits_of_bytes shows.signature, shows.known,
    ?_, ?_⟩
  · have run := shows.fill
    have length : t.checked = (List.replicate t.checked byte).length := List.length_replicate.symm
    rw [length] at run
    have cells := byte_bits_of_bytes (run.trans (by rw [← length]))
    rwa [← length] at cells
  · intro minimum least
    have long := shows.long
    rwa [least] at long

theorem accepted_shown (t : LongTrack) (listed : t ∈ all) (mark : Sync) (marked : t.mark = some mark)
    (source : Revolution) (start track : Track)
    (found : t.codec.outcome start source = .ok track) :
    ∃ n byte, t.Stands mark source n byte ∧
      (track.offset : Int) = ((n : Int) - t.markBits) % source.length ∧
        track = { start with
          offset := track.offset, total := t.total.getD start.total,
          size := (t.dataOf byte).length, data := t.dataOf byte } := by
  obtain ⟨n, byte, seen, shows, small, same, fields⟩ := outcome_shown marked found
  exact ⟨n, byte, shows_stands (marks_start t listed marked).1 seen shows, turned_back small same,
    fields⟩

-- A turn that starts with a mark but for its first cell, which would be the last of the turn.
def edgeTurn (last : Bool) : Revolution :=
  Revolution.ofBits (Bits.ofNat 31 0x41244124 ++ mfmCells false (List.replicate 60 false) ++ [last])

def edgeTrack : Track := { Track.unformatted with offset := 151, total := 105500 }

theorem edge_accepted (last : Bool) :
    gremlin.codec.outcome .unformatted (edgeTurn last) = .ok edgeTrack := by
  cases last <;> decide +kernel

theorem edge_shown :
    gremlin.codec.outcome .unformatted (edgeTurn true) = .ok edgeTrack ∧
      ∃ n byte, gremlin.Stands (.long 0x41244124) (edgeTurn true) n byte ∧
        (edgeTrack.offset : Int) = ((n : Int) - gremlin.markBits) % (edgeTurn true).length ∧
          edgeTrack = { Track.unformatted with
            offset := edgeTrack.offset, total := gremlin.total.getD Track.unformatted.total,
            size := (gremlin.dataOf byte).length, data := gremlin.dataOf byte } :=
  ⟨edge_accepted true, accepted_shown gremlin (by decide) _ rfl _ _ _ (edge_accepted true)⟩

section
variable {mark : Sync} {source : Revolution} {n bits offset : Nat}

-- A mark that was read as a whole stands there with its last cells, too.
theorem read_mark_stands (proper : mark.Proper) (behind : mark.bits ≤ n) (few : bits ≤ mark.bits)
    (seen : mark.seenAt source n = true)
    (same : (offset + bits) % source.length = n % source.length) :
    source.stretch offset bits = Bits.ofNat bits mark.value.toNat := by
  obtain ⟨front, width⟩ := Nat.exists_eq_add_of_le' few
  rw [← Nat.sub_add_cancel behind, Sync.seen_iff proper, Sync.cells, width, Bits.of_nat_append,
    Revolution.stretch_add] at seen
  have last := (List.append_inj seen (by simp)).2
  rw [← last]
  apply Revolution.stretch_congr
  apply Nat.ModEq.add_right_cancel' bits
  have place : n - (front + bits) + front + bits = n := by omega
  rw [Nat.ModEq, same, place]

-- Of a mark that starts with a single clear cell, the others were read.
theorem clear_mark_stands (proper : mark.Proper) (clear : mark.cells = false :: mark.core)
    (leads : mark.core.head? = some true) (seen : mark.seenAt source n = true)
    (inside : offset < source.length)
    (same : (offset + mark.bits) % source.length = n % source.length) :
    source.stretch (offset + 1) (mark.bits - 1) = mark.core ∧
      (mark.bits ≤ n ∨ offset + 1 = source.length) := by
  have width : mark.bits = mark.core.length + 1 := by
    rw [← Sync.cells_length, clear, List.length_cons]
  have cells : mark.cells = [false] ++ mark.core := clear
  obtain ⟨behind, shown⟩ := Sync.seen_core proper cells leads seen
  have turned : (offset + 1) % source.length = (n - mark.core.length) % source.length := by
    apply Nat.ModEq.add_right_cancel' mark.core.length
    have place : offset + 1 + mark.core.length = offset + mark.bits := by omega
    rw [Nat.ModEq, place, Nat.sub_add_cancel behind, same]
  refine ⟨?_, ?_⟩
  · rw [width, Nat.add_sub_cancel, source.stretch_congr _ _ _ turned, shown]
  · by_cases whole : mark.bits ≤ n
    · exact .inl whole
    · have first : n - mark.core.length = 0 := by omega
      rw [first, Nat.zero_mod] at turned
      have pulse := Nat.le_of_dvd (Nat.succ_pos offset) (Nat.dvd_of_mod_eq_zero turned)
      exact .inr (by omega)

end

-- Where a mark starts with a clear cell, the rest of it is written and is all of its core.
theorem marks_lead (t : LongTrack) (listed : t ∈ all) {mark : Sync} (marked : t.mark = some mark) :
    t.markBits ≤ mark.bits ∧ 0 < t.markBits ∧ (mark.cells.head? = some true ∨
      mark.cells = false :: mark.core ∧ t.markBits = mark.bits) := by
  have table : ∀ t ∈ all, ∀ mark ∈ t.mark, t.markBits ≤ mark.bits ∧ 0 < t.markBits ∧
      (mark.cells.head? = some true ∨
        mark.cells = false :: mark.core ∧ t.markBits = mark.bits) := by
    decide
  exact table t listed mark marked

-- Up to this length the sums behind an offset stay within 32 bits. A longer source can wrap them, and then
-- the offset is not where the mark is.
theorem accepted_mark (t : LongTrack) (listed : t ∈ all) (mark : Sync) (marked : t.mark = some mark)
    (source : Revolution) (short : source.length < 2 ^ 31) (start track : Track)
    (found : t.codec.outcome start source = .ok track) :
    track.offset + source.length < 2 ^ 32 ∧
      source.stretch (track.offset + 1) (t.markBits - 1) =
        (Bits.ofNat t.markBits mark.value.toNat).tail ∧
      (source.stretch track.offset t.markBits = Bits.ofNat t.markBits mark.value.toNat ↔
        ¬ (mark.cells.head? = some false ∧ track.offset + 1 = source.length ∧
          source.cell track.offset = true)) := by
  obtain ⟨n, byte, seen, -, inside, same, -⟩ := outcome_shown marked found
  obtain ⟨proper, starts⟩ := marks_start t listed marked
  obtain ⟨few, positive, leads⟩ := marks_lead t listed marked
  refine ⟨by omega, ?_⟩
  have first : source.stretch track.offset t.markBits =
      source.cell track.offset :: source.stretch (track.offset + 1) (t.markBits - 1) := by
    rw [← Nat.sub_add_cancel positive, Revolution.stretch_succ, Revolution.replay,
      Nat.mod_eq_of_lt inside, Nat.add_sub_cancel]
  rcases leads with set | ⟨clear, width⟩
  · have behind : mark.bits ≤ n := by
      by_contra early
      rw [Sync.not_seen_early proper set n (Nat.lt_of_not_le early)] at seen
      cases seen
    have stands := read_mark_stands proper behind few seen same
    refine ⟨?_, fun _ other => ?_, fun _ => stands⟩
    · rw [← stands, first, List.tail_cons]
    · rw [set] at other
      cases other.1
  · rw [width] at same first ⊢
    obtain ⟨rest, read⟩ := clear_mark_stands proper clear starts seen inside same
    refine ⟨?_, fun stands other => ?_, fun other => ?_⟩
    · change _ = mark.cells.tail
      rw [rest, clear, List.tail_cons]
    · change _ = mark.cells at stands
      rw [first, clear, List.cons.injEq, other.2.2] at stands
      cases stands.1
    · rcases read with whole | pulse
      · exact read_mark_stands proper whole (Nat.le_refl _) seen same
      · have unset : source.cell track.offset = false := by
          rw [Bool.eq_false_iff]
          intro cell
          exact other ⟨by rw [clear]; rfl, pulse, cell⟩
        change _ = mark.cells
        rw [first, rest, unset, clear]

-- The first cell of the mark is clear and the cell at the offset is set.
theorem edge_mark_absent :
    gremlin.codec.outcome .unformatted (edgeTurn true) = .ok edgeTrack ∧
      ∀ place, place < 152 →
        (edgeTurn true).stretch place gremlin.markBits ≠
          Bits.ofNat gremlin.markBits (Sync.long 0x41244124).value.toNat := by
  refine ⟨edge_accepted true, ?_⟩
  decide +kernel

theorem edge_mark_stands :
    (edgeTurn false).length < 2 ^ 31 ∧ gremlin.codec.outcome .unformatted (edgeTurn false) = .ok edgeTrack ∧
      (edgeTurn false).stretch edgeTrack.offset gremlin.markBits =
        Bits.ofNat gremlin.markBits (Sync.long 0x41244124).value.toNat := by
  have short : (edgeTurn false).length < 2 ^ 31 := by decide +kernel
  have spells := accepted_mark gremlin (by decide) _ rfl _ short _ _ (edge_accepted false)
  have clear : (edgeTurn false).cell edgeTrack.offset = false := by decide +kernel
  refine ⟨short, edge_accepted false, spells.2.2.mpr fun other => ?_⟩
  rw [clear] at other
  cases other.2.2

end LongTrack

end FloppyTrack
