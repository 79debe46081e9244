import FloppyTrack.Codec.KeyTrack
import FloppyTrack.Proofs.Copies
import FloppyTrack.Proofs.Recognition
import FloppyTrack.Proofs.RunningCrc
import FloppyTrack.Proofs.Turn

set_option autoImplicit false

namespace FloppyTrack.KeyTrack

structure Genuine (data : List UInt8) : Prop where
  length : data.length = size
  crc : Crc16.update Crc16.initial (dataBytes data) = crc

section
variable {r : Revolution} {R n : Nat}

-- The CRC is that of the whole bytes read, whether or not the cells last for the block.
theorem block_sums {c : Cursor} {stop : Nat} (stands : c.Stands r R n)
    (stopped : (c.restartCrc.bytes size).2.Stands r R stop) :
    (c.restartCrc.bytes size).2.crc =
      Crc16.update Crc16.initial (r.bytesFrom n ((stop - n) / 16)) := by
  have sums := (Cursor.restarted_sums stands).reads (c.restartCrc.reads_bytes size)
  rw [sums.crc, stopped.read]

theorem look_run (c : Cursor) :
    look.run c =
      (match ((Reader.bytes? size).run c.restartCrc).1 with
        | some data =>
          if (c.restartCrc.bytes size).2.crc = crc then .accept data
          else .reject (.crc (c.restartCrc.bytes size).2.crc)
        | none => .reject (.crc (c.restartCrc.bytes size).2.crc), (c.restartCrc.bytes size).2) := by
  have read : (Reader.bytes? size).run (Reader.restartCrc.run c).2 =
      (Reader.bytes? size).run c.restartCrc := rfl
  unfold look
  simp only [Reader.run_bind]
  rw [read]
  cases ((Reader.bytes? size).run c.restartCrc).1 <;> rfl

theorem look_takes (room : n + 976 ≤ R * r.length) :
    look.Takes r R n
      (if Crc16.update Crc16.initial (dataBytes (r.octets n size)) = crc then
        .accept (r.octets n size)
      else .reject (.crc (Crc16.update Crc16.initial (dataBytes (r.octets n size))))) (n + 976) := by
  intro c stands
  obtain ⟨data, stopped⟩ := Reader.takes_bytes size room _ stands.restart_crc
  have sums := block_sums stands stopped
  have bytes : (n + 8 * size - n) / 16 = 61 := by
    have : size = 122 := rfl
    omega
  have decoded : dataBytes (r.octets n size) = r.bytesFrom n 61 := octets_decoded r n 61
  rw [bytes, ← decoded] at sums
  rw [look_run, data]
  dsimp only
  rw [sums]
  exact ⟨rfl, stopped⟩

theorem look_short (short : R * r.length < n + 976) :
    ∃ why, look.Takes r R n (.reject why) (R * r.length) := by
  refine ⟨.crc (Crc16.update Crc16.initial (r.bytesFrom n ((R * r.length - n) / 16))), ?_⟩
  intro c stands
  obtain ⟨unread, stopped⟩ := Reader.takes_no_bytes size short _ stands.restart_crc
  rw [look_run, unread]
  dsimp only
  rw [block_sums stands stopped]
  exact ⟨rfl, stopped⟩

theorem steady_look : look.Steady := by
  intro r R n turns within
  by_cases room : n + 976 ≤ R * r.length
  · exact ⟨_, _, look_takes room⟩
  · obtain ⟨why, takes⟩ := look_short (Nat.lt_of_not_le room)
    exact ⟨_, _, takes⟩

theorem accepted_block {data : List UInt8} {stop : Nat} (within : n ≤ R * r.length)
    (takes : look.Takes r R n (.accept data) stop) :
    n + 976 ≤ R * r.length ∧ data = r.octets n size ∧ Genuine data := by
  by_cases room : n + 976 ≤ R * r.length
  · obtain ⟨same, -⟩ := Reader.takes_unique within takes (look_takes room)
    split at same
    · rename_i right
      cases same
      exact ⟨room, rfl, Revolution.octets_length r n size, right⟩
    · cases same
  · obtain ⟨why, short⟩ := look_short (Nat.lt_of_not_le room)
    cases (Reader.takes_unique within takes short).1

theorem look_decides {error : Fault} {stop : Nat} (within : n ≤ R * r.length) :
    ¬ look.Takes r R n (.giveUp error) stop := by
  intro takes
  by_cases room : n + 976 ≤ R * r.length
  · obtain ⟨same, -⟩ := Reader.takes_unique within takes (look_takes room)
    split at same <;> cases same
  · obtain ⟨why, short⟩ := look_short (Nat.lt_of_not_le room)
    cases (Reader.takes_unique within takes short).1

end

-- The track that a block is kept as.
def keep (track : Track) (data : List UInt8) : Track :=
  { track with size, offset := 76000, total := 101500, data }

section
variable {start track : Track} {r : Revolution}

-- Behind the first lead mark the decode is the search for a block.
theorem led_run (start : Track) {R m : Nat} (first : FirstAfter (leadMark.seenAt r) 0 m)
    (within : m ≤ R * r.length) :
    ∃ c : Cursor, c.Stands r R m ∧ (decode start).run (Cursor.start r R) =
      (((scan .sevenCities dataMark look).run c).1.map (keep start),
        ((scan .sevenCities dataMark look).run c).2) := by
  have begun := Cursor.start_stands r R
  obtain ⟨sought, stands⟩ := begun.seek_hit (Cursor.Stands.sees leadMark) m first within
  have led : ((Reader.seekMark leadMark).run (Cursor.start r R)).1 = true := sought
  refine ⟨_, stands, ?_⟩
  unfold decode
  rw [Reader.run_bind, led]
  rfl

-- Without a lead mark every cell is read, and nothing is looked at.
theorem unled_run (start : Track) {R : Nat}
    (unseen : ∀ m, 0 < m → m ≤ R * r.length → leadMark.seenAt r m = false) :
    ((decode start).run (Cursor.start r R)).1.result = .error (.noMatch .sevenCities) ∧
      ((decode start).run (Cursor.start r R)).2.Stands r R (R * r.length) := by
  have begun := Cursor.start_stands r R
  obtain ⟨sought, stands⟩ := begun.seek_miss (Cursor.Stands.sees leadMark) unseen
  have led : ((Reader.seekMark leadMark).run (Cursor.start r R)).1 = false := sought
  unfold decode
  rw [Reader.run_bind, led]
  exact ⟨rfl, stands⟩

theorem led_or_unled (r : Revolution) (R : Nat) :
    (∃ m, FirstAfter (leadMark.seenAt r) 0 m ∧ m ≤ R * r.length) ∨
      ∀ m, 0 < m → m ≤ R * r.length → leadMark.seenAt r m = false := by
  by_cases led : ∃ m, 0 < m ∧ m ≤ R * r.length ∧ leadMark.seenAt r m = true
  · obtain ⟨k, ahead, within, seen⟩ := led
    obtain ⟨m, bound, first⟩ := first_after_exists (leadMark.seenAt r) 0 k ahead seen
    exact .inl ⟨m, first, by omega⟩
  · exact .inr fun m ahead within => Bool.eq_false_iff.mpr fun seen => led ⟨m, ahead, within, seen⟩

theorem decoded_led (start : Track) {R m : Nat} (first : FirstAfter (leadMark.seenAt r) 0 m)
    (within : m ≤ R * r.length) :
    ∃ result, Scan.Course .sevenCities dataMark look r R m result ∧
      ((decode start).run (Cursor.start r R)).1.result = keep start <$> result := by
  obtain ⟨c, stands, run⟩ := led_run start first within
  have turns : 0 < R := by
    refine Nat.pos_of_ne_zero ?_
    rintro rfl
    have ahead := first.ahead
    omega
  exact ⟨_, Scan.loop_course .sevenCities dataMark look steady_look r R m 0 turns [] c stands,
    by rw [run]; rfl⟩

theorem outcome_led (start : Track) {m : Nat} (first : FirstAfter (leadMark.seenAt r) 0 m)
    (within : m ≤ Cursor.defaultRevolutions * r.length) :
    ∃ result, Scan.Course .sevenCities dataMark look r Cursor.defaultRevolutions m result ∧
      codec.outcome start r = keep start <$> result :=
  decoded_led start first within

theorem outcome_unled (start : Track) (unseen : ∀ n, leadMark.seenAt r n = false) :
    codec.outcome start r = .error (.noMatch .sevenCities) :=
  (unled_run start fun m _ _ => unseen m).1

theorem decoded_genuine {R : Nat}
    (found : ((decode start).run (Cursor.start r R)).1.result = .ok track) :
    ∃ data, Genuine data ∧ track = keep start data := by
  rcases led_or_unled r R with ⟨m, first, within⟩ | unseen
  · obtain ⟨result, course, outcome⟩ := decoded_led start first within
    rw [outcome] at found
    cases result with
    | error error => cases found
    | ok data =>
      cases found
      obtain ⟨n, stop, -, reached, -, takes⟩ := course.found_at
      exact ⟨data, (accepted_block reached takes).2.2, rfl⟩
  · have missed := (unled_run start unseen).1.symm.trans found
    cases missed

theorem outcome_genuine (found : codec.outcome start r = .ok track) :
    ∃ data, Genuine data ∧ track = keep start data :=
  decoded_genuine found

end

-- How many zero bytes lie between the block and the lead mark.
def zeroCount (track : Track) : Nat := 6052 - track.data.length / 2

theorem emit_lays (track : Track) :
    (codec.emit track).Lays (dataMark.cells ++ byteBits track.data)
        (byteBits (List.replicate (zeroCount track) 0) ++ Bits.ofNat 16 0x0480) ∧
      (codec.emit track).total = track.total ∧ (codec.emit track).offset = track.offset := by
  have marked := Emission.lays_head track.total track.offset 16 dataMark.value.toNat
  obtain ⟨turn, place⟩ := Emission.head_start track.total track.offset 16 dataMark.value.toNat
  obtain ⟨held, total, offset⟩ := Emission.write_raw marked (byteBits track.data)
  obtain ⟨filled, total', offset'⟩ := Emission.write_more held .mfm (by decide)
    (byteBits (List.replicate (zeroCount track) 0))
  obtain ⟨ended, total'', offset''⟩ :=
    Emission.write_more filled .mfm (by decide) (Bits.ofNat 16 0x0480)
  change (encode track _).Lays _ _ ∧ (encode track _).total = _ ∧ (encode track _).offset = _
  exact ⟨ended, total''.trans (total'.trans (total.trans turn)),
    offset''.trans (offset'.trans (offset.trans place))⟩

-- The cells from the index pulse up to the block.
def ahead : List Bool :=
  copies 35678 [true, false] ++ leadMark.cells ++ copies 2314 [true, false]

theorem ahead_cells :
    mfmCells false (List.replicate 35674 false ++ Bits.ofNat 16 0x0480 ++
      List.replicate 2310 false) = ahead := by
  have mark : mfmCells false (Bits.ofNat 16 0x0480) =
      copies 4 [true, false] ++ leadMark.cells ++ copies 4 [true, false] := by decide
  have clear : (List.replicate 35674 false).getLastD false = false := by
    rw [List.replicate_succ', List.getLastD_concat]
  rw [List.append_assoc, mfm_cells_append, clear, mfm_cells_append, mark, mfm_zeros]
  change _ ++ (_ ++ mfmCells false _) = _
  rw [mfm_zeros, ahead, copies_add _ 35674 4, copies_add _ 4 2310]
  simp only [List.append_assoc]

theorem ahead_length : ahead.length = 76000 := by
  simp only [ahead, List.length_append, copies_length, Sync.cells_length]
  rfl

-- Neither the zeros nor the lead mark show the data mark before the whole of it is there.
theorem ahead_apart : ¬ dataMark.cells <:+: ahead ++ dataMark.cells.dropLast := by
  have short : dataMark.cells.length ≤ 8 * [true, false].length := by decide
  have few : ¬ dataMark.cells <:+: [] ++ copies 9 [true, false] ++
      (leadMark.cells ++ copies 9 [true, false] ++ dataMark.cells.dropLast) := by
    decide +kernel
  have front : ¬ dataMark.cells <:+: [] ++ copies 35678 [true, false] ++
      (leadMark.cells ++ copies 9 [true, false] ++ dataMark.cells.dropLast) :=
    apart_of_few short (by decide) few
  rw [List.nil_append, ← List.append_assoc, ← List.append_assoc] at front
  rw [ahead]
  exact apart_of_few short (by decide) front

section
variable (start : Track) {data : List UInt8}

theorem kept_placed (data : List UInt8) :
    (codec.emit (keep start data)).total = 101500 ∧
      (codec.emit (keep start data)).offset = 76000 :=
  (emit_lays (keep start data)).2

theorem kept_lays (whole : data.length = size) :
    (codec.emit (keep start data)).Lays (dataMark.cells ++ byteBits data)
      (List.replicate 12254 false ++ List.replicate 35674 false ++ Bits.ofNat 16 0x0480) := by
  have lays := (emit_lays (keep start data)).1
  have held : (keep start data).data = data := rfl
  have count : zeroCount (keep start data) = 5991 := by
    rw [zeroCount, held, whole]
    rfl
  have zeros : byteBits (List.replicate 5991 0) =
      List.replicate 12254 false ++ List.replicate 35674 false := by
    rw [byte_bits_zeros, List.replicate_append_replicate]
  rwa [count, held, zeros] at lays

-- The first zeros behind the block stand before the index pulse, and the rest behind it.
theorem turn_cells (whole : data.length = size) :
    ∃ zeros, zeros.length = 24508 ∧ (codec.emit (keep start data)).filled.toList =
      dataMark.cells ++ byteBits data ++ (zeros ++ ahead) := by
  have lays := kept_lays start whole
  have bits : 8 * data.length = 976 := by rw [whole]; rfl
  have fits : (dataMark.cells ++ byteBits data).length + 2 * ((List.replicate 12254 false ++
      List.replicate 35674 false ++ Bits.ofNat 16 0x0480).length + 2310) =
        (codec.emit (keep start data)).total := by
    rw [(kept_placed start data).1]
    simp only [List.length_append, List.length_replicate, Sync.cells_length, Bits.of_nat_length,
      byte_bits_length, bits]
    rfl
  have cells := Emission.filled_whole lays fits
  have clear : ∀ last, (List.replicate 12254 false).getLastD last = false := by
    intro last
    rw [List.replicate_succ', List.getLastD_concat]
  have parts : List.replicate 12254 false ++ List.replicate 35674 false ++ Bits.ofNat 16 0x0480 ++
      List.replicate 2310 false = List.replicate 12254 false ++ (List.replicate 35674 false ++
        Bits.ofNat 16 0x0480 ++ List.replicate 2310 false) := by
    simp only [List.append_assoc]
  rw [parts, mfm_cells_append, clear, ahead_cells] at cells
  exact ⟨_, by rw [mfm_cells_length, List.length_replicate], cells⟩

theorem turn_shown (whole : data.length = size) :
    (codec.emit (keep start data)).toRevolution.stretch 0 76000 = ahead ∧
      (codec.emit (keep start data)).toRevolution.stretch 76000 992 =
        dataMark.cells ++ byteBits data := by
  obtain ⟨turn, place⟩ := kept_placed start data
  obtain ⟨zeros, count, cells⟩ := turn_cells start whole
  have block : (dataMark.cells ++ byteBits data).length = 992 := by
    rw [List.length_append, Sync.cells_length, byte_bits_length, whole]
    rfl
  constructor
  · have shown := Emission.stretch_placed (codec.emit (keep start data)) 25500 76000 (by rw [turn])
    have front : (dataMark.cells ++ byteBits data ++ zeros).length = 25500 := by
      rw [List.length_append, block, count]
    rw [cells, ← List.append_assoc, List.drop_left' front,
      List.take_of_length_le (Nat.le_of_eq ahead_length)] at shown
    rw [← shown]
    apply Revolution.stretch_congr
    rw [Emission.to_revolution_length, turn, place]
  · have shown := Emission.stretch_placed (codec.emit (keep start data)) 0 992
      (by rw [turn]; decide)
    rwa [place, cells, List.drop_zero, List.take_left' block] at shown

end

section
variable {r : Revolution}

theorem proper_marks : leadMark.Proper ∧ dataMark.Proper := by
  refine ⟨⟨.inl rfl, ?_⟩, ⟨.inl rfl, ?_⟩⟩ <;> decide

theorem lead_seen (shown : r.stretch 0 76000 = ahead) : leadMark.seenAt r 71372 = true := by
  have length := ahead_length
  rw [← length, ahead] at shown
  have part := Revolution.stretch_part shown
  rw [Sync.cells_length, Nat.zero_add, copies_length] at part
  exact (Sync.seen_iff proper_marks.1 71356).mpr part

theorem data_seen (shown : r.stretch 76000 16 = dataMark.cells) :
    dataMark.seenAt r 76016 = true :=
  (Sync.seen_iff proper_marks.2 76000).mpr shown

theorem data_unseen (shown : r.stretch 0 76000 = ahead)
    (marked : r.stretch 76000 16 = dataMark.cells) {n : Nat} (before : n < 76016) :
    dataMark.seenAt r n = false := by
  by_cases early : n < 16
  · exact Sync.not_seen_early proper_marks.2 rfl n early
  · rw [Bool.eq_false_iff]
    intro seen
    obtain ⟨k, rfl⟩ := Nat.exists_eq_add_of_le' (Nat.le_of_not_lt early)
    have here : r.stretch k 16 = dataMark.cells := (Sync.seen_iff proper_marks.2 k).mp seen
    have inside : r.stretch k 16 <:+: r.stretch 0 (76000 + 15) :=
      r.stretch_infix (Nat.zero_le k) (by omega)
    have cut : r.stretch 76000 15 = dataMark.cells.dropLast := by
      rw [← marked, r.stretch_add 76000 15 1]
      exact List.dropLast_concat.symm
    rw [here, Revolution.stretch_add, shown, Nat.zero_add, cut] at inside
    exact ahead_apart inside

end

-- The zeros show no data mark, and so the first block behind the lead mark is the one on the track.
theorem regenerated {data : List UInt8} (start other : Track) (genuine : Genuine data) :
    codec.outcome start (codec.emit (keep other data)).toRevolution = .ok (keep start data) := by
  obtain ⟨lead, block⟩ := turn_shown other genuine.length
  have length : (codec.emit (keep other data)).toRevolution.length = 101500 := by
    rw [Emission.to_revolution_length, (kept_placed other data).1]
  generalize (codec.emit (keep other data)).toRevolution = r at lead block length
  have turns : Cursor.defaultRevolutions = 3 := rfl
  have parts : 992 = dataMark.bits + 8 * size := rfl
  rw [parts, Revolution.stretch_add] at block
  obtain ⟨marked, held⟩ := List.append_inj block (by simp)
  obtain ⟨m, upTo, first⟩ := first_after_exists _ 0 71372 (by decide) (lead_seen lead)
  obtain ⟨result, course, outcome⟩ := outcome_led start first (by rw [length, turns]; omega)
  have next : FirstAfter (dataMark.seenAt r) m 76016 :=
    ⟨by omega, data_seen marked, fun _ _ below => data_unseen lead marked below⟩
  have read : r.octets 76016 size = data := by
    apply byte_bits_injective _ _ (by rw [Revolution.octets_length, genuine.length])
    rw [octet_bits]
    exact held
  have takes := look_takes (r := r) (R := Cursor.defaultRevolutions) (n := 76016)
    (by rw [length, turns]; decide)
  rw [read, if_pos genuine.crc] at takes
  obtain ⟨value, same, found⟩ := course.first_given next (by rw [length, turns]; decide)
    ⟨_, _, takes, rfl⟩ fun finding same => ⟨data, same.symm⟩
  cases same
  rw [outcome, found]
  rfl

theorem accepted_regenerated (start track : Track) (source : Revolution)
    (found : codec.outcome start source = .ok track) :
    track.data.length = 122 ∧ track.size = 122 ∧ track.offset = 76000 ∧ track.total = 101500 ∧
      codec.outcome start (codec.emit track).toRevolution = .ok track := by
  obtain ⟨data, genuine, rfl⟩ := outcome_genuine found
  exact ⟨genuine.length, rfl, rfl, rfl, regenerated start start genuine⟩

-- A block in which both marks of the track stand.
def markedBlock : Track :=
  keep (Track.new .sevenCities .none)
    ([0x92, 0x51, 0x92, 0x4a] ++ List.replicate 114 0 ++ [0x41, 0x44, 0x45, 0x44])

theorem marked_genuine : Genuine markedBlock.data := by
  constructor <;> decide +kernel

theorem marked_regenerated :
    codec.outcome (Track.new .sevenCities .none) (codec.emit markedBlock).toRevolution =
        .ok markedBlock ∧
      markedBlock.data.length = 122 ∧ markedBlock.size = 122 ∧ markedBlock.offset = 76000 ∧
      markedBlock.total = 101500 ∧
      codec.outcome (Track.new .sevenCities .none) (codec.emit markedBlock).toRevolution =
        .ok markedBlock :=
  have found := regenerated (Track.new .sevenCities .none) (Track.new .sevenCities .none)
    marked_genuine
  ⟨found, accepted_regenerated _ markedBlock _ found⟩

end FloppyTrack.KeyTrack
