import FloppyTrack.Proofs.LongTrack.Apart
import FloppyTrack.Proofs.Misfits
import FloppyTrack.Proofs.Offsets

set_option autoImplicit false

namespace FloppyTrack

namespace Scan

section
variable {α : Type} {mark : Sync} {look : Reader (Finding α)} {c d e : Cursor}

theorem loop_exhausted (format : Format) (candidates : Nat) (log : List Event)
    (sought : c.seek (mark.isAt ·.word) = (false, d)) :
    (loop format mark look candidates log c).1.result = .error (.noMatch format) := by
  unfold loop
  split <;> rename_i again <;> rw [sought] at again
  cases again

theorem loop_looked {finding : Finding α} (format : Format) (candidates : Nat) (log : List Event)
    (sought : c.seek (mark.isAt ·.word) = (true, d)) (looked : look.run d = (finding, e)) :
    (loop format mark look candidates log c).1.result =
      match finding with
      | .accept value => .ok value
      | .reject why =>
        (loop format mark look (candidates + 1)
          (.rejected format mark (d.startOfLast mark.bits) why :: log) e).1.result
      | .giveUp error => .error error := by
  conv => lhs; unfold loop
  split <;> rename_i again <;> rw [sought] at again <;> cases again
  split <;> rename_i found <;> rw [looked] at found <;> cases found <;> rfl

-- The format is only named when nothing is found.
theorem loop_formats (one other : Format) (candidates : Nat) (log : List Event) (c : Cursor)
    (candidates' : Nat) (log' : List Event) :
    (loop one mark look candidates log c).1.result.toOption =
      (loop other mark look candidates' log' c).1.result.toOption := by
  fun_induction loop one mark look candidates log c generalizing candidates' log' with
  | case1 candidates log c d sought =>
    rw [loop_exhausted other candidates' log' sought]
    rfl
  | case2 candidates log c d sought offset value e looked =>
    rw [loop_looked other candidates' log' sought looked]
  | case3 candidates log c d sought offset why e looked ih =>
    rw [loop_looked other candidates' log' sought looked]
    exact ih _ _
  | case4 candidates log c d sought offset error e looked =>
    rw [loop_looked other candidates' log' sought looked]

end

end Scan

namespace LongTrack

theorem found_offset (t : LongTrack) (start : Track) (result : Except Fault (Nat × List UInt8)) :
    ((fun place => t.found start place.1 place.2) <$> result).toOption.map Track.offset =
      result.toOption.map Prod.fst := by
  cases result <;> rfl

-- Both look for the same cells, and neither is told from the length of the turn.
theorem tiertex_alike (r : Revolution) :
    (tiertex.codec.outcome (Track.new .tiertex .none) r).toOption.map Track.offset =
      (gremlin.codec.outcome (Track.new .gremlin .none) r).toOption.map Track.offset := by
  have looks : tiertex.look = gremlin.look := rfl
  rw [outcome_scan (t := tiertex) rfl, outcome_scan (t := gremlin) rfl, looks, found_offset,
    found_offset]
  exact congrArg _ (Scan.loop_formats .tiertex .gremlin 0 [] _ 0 [])

end LongTrack

def Codec.accepted? (codec : Codec) (source : Revolution) : Option Track :=
  (codec.recognise source).result.toOption

theorem Codec.accepts {codec : Codec} {source : Revolution} {track : Track}
    (found : codec.outcome (Track.new codec.format codec.geometry) source = .ok track) :
    codec.accepted? source = some track :=
  congrArg Except.toOption found

theorem Codec.declines {codec : Codec} {source : Revolution} {error : Fault}
    (missed : codec.outcome (Track.new codec.format codec.geometry) source = .error error) :
    codec.accepted? source = none :=
  congrArg Except.toOption missed

theorem Codec.accepted_format {codec : Codec} {source : Revolution} {track : Track}
    (listed : codec ∈ Catalog.codecs) (accepted : codec.accepted? source = some track) :
    track.format = codec.format := by
  cases found : codec.outcome (Track.new codec.format codec.geometry) source with
  | error error =>
    rw [Codec.declines found] at accepted
    cases accepted
  | ok other =>
    rw [Codec.accepts found] at accepted
    cases accepted
    exact (Catalog.restores codec listed found).format

namespace Disk

-- The first of the formats to fit track `n` is that of `found`, which is kept.
structure Identifies (disk : Disk) (n : Nat) (formats : List Format) (source : Revolution)
    (found : Option Track) : Prop where
  result : (disk.identify n formats source).1.result = .ok (found.map Track.format)
  kept : (disk.identify n formats source).2 = found.elim disk (disk.set n)

theorem identifies_first {disk : Disk} {n : Nat} (within : n < disk.size) (source : Revolution)
    (codecs : List Codec) (listed : ∀ codec ∈ codecs, codec ∈ Catalog.codecs) :
    disk.Identifies n (codecs.map Codec.format) source
      (codecs.findSome? (·.accepted? source)) := by
  induction codecs with
  | nil =>
    constructor <;> rw [List.map_nil, identify, if_pos within] <;> rfl
  | cons codec codecs ih =>
    have member := listed codec List.mem_cons_self
    have known := Format.listed_codec codec member
    cases tried : codec.outcome (Track.new codec.format codec.geometry) source with
    | ok track =>
      have accepted := Codec.accepts tried
      have commits : disk.Commits n ((codec :: codecs).map Codec.format) source codec.format track :=
        first_commits within known tried
      rw [List.findSome?_cons, accepted]
      refine ⟨?_, commits.kept⟩
      rw [commits.result, ← Codec.accepted_format member accepted]
      rfl
    | error error =>
      have declined := Codec.declines tried
      have rest := ih fun other later => listed other (List.mem_cons_of_mem codec later)
      obtain ⟨result, kept⟩ := misfit_skipped (codecs.map Codec.format) within known tried
        (Catalog.misfits codec member _ source tried)
      rw [List.findSome?_cons, declined]
      exact ⟨result.trans rest.result, kept.trans rest.kept⟩

end Disk

namespace Catalog

-- The protections recognised by their marks, in the order in which both ways try them.
def marked : List Codec :=
  [LongTrack.protec.codec, LongTrack.gremlin.codec, LongTrack.tiertex.codec,
    LongTrack.crystals.codec, LongTrack.infogrames.codec, LongTrack.bat.codec,
    LongTrack.powerPack.codec, KeyTrack.codec]

theorem detect_marked (source : Revolution) : Track.detect? source =
    (marked ++ [LongTrack.empty.codec]).findSome? (·.accepted? source) := rfl

-- The codecs that detection tries before that of the format.
def before (format : Format) : List Codec :=
  protectionOrder.takeWhile (·.format ≠ format)

theorem before_long (t : LongTrack) (listed : t ∈ LongTrack.all) :
    (∃ back, protectionOrder = before t.format ++ t.codec :: back) ∧
      before t.format = t.earlier.map LongTrack.codec ++
        if t = LongTrack.empty then [KeyTrack.codec] else [] := by
  simp only [LongTrack.all, List.mem_cons, List.not_mem_nil, or_false] at listed
  rcases listed with rfl | rfl | rfl | rfl | rfl | rfl | rfl | rfl <;> exact ⟨⟨_, rfl⟩, rfl⟩

theorem detected (t : LongTrack) (listed : t ∈ LongTrack.all) {source : Revolution} {track : Track}
    (declined : ∀ codec ∈ before t.format, codec.accepted? source = none)
    (accepted : t.codec.accepted? source = some track) : Track.detect? source = some track := by
  obtain ⟨⟨back, order⟩, -⟩ := before_long t listed
  change protectionOrder.findSome? (·.accepted? source) = _
  rw [order, List.findSome?_append, List.findSome?_eq_none_iff.mpr declined, Option.none_or,
    List.findSome?_cons, accepted]

theorem trial_order :
    trialOrder = (marked ++ (rTypes ++ [LongTrack.empty.codec])).map Codec.format := by
  decide

theorem tried_listed (codec : Codec)
    (tried : codec ∈ marked ++ (rTypes ++ [LongTrack.empty.codec])) : codec ∈ codecs := by
  simp only [marked, rTypes, List.mem_append, List.mem_cons, List.not_mem_nil, or_false] at tried
  rcases tried with (rfl | rfl | rfl | rfl | rfl | rfl | rfl | rfl) | (rfl | rfl) | rfl <;>
    simp [codecs, protections, rTypes, LongTrack.all]

section
variable {source : Revolution} {track : Track}

theorem found_apart {tried : List Codec} (listed : ∀ codec ∈ tried, codec ∈ codecs)
    {format : Format} (apart : format ∉ tried.map Codec.format)
    (found : tried.findSome? (·.accepted? source) = some track) : track.format ≠ format := by
  obtain ⟨codec, member, accepted⟩ := List.exists_of_findSome?_eq_some found
  rw [Codec.accepted_format (listed codec member) accepted]
  rintro rfl
  exact apart (List.mem_map_of_mem member)

theorem marked_format (found : marked.findSome? (·.accepted? source) = some track) :
    track.format ≠ .empty :=
  found_apart (fun codec member => tried_listed codec (List.mem_append_left _ member)) (by decide)
    found

theorem empty_format
    (found : [LongTrack.empty.codec].findSome? (·.accepted? source) = some track) :
    track.format = .empty := by
  obtain ⟨codec, member, accepted⟩ := List.exists_of_findSome?_eq_some found
  obtain rfl := List.mem_singleton.mp member
  exact Codec.accepted_format (tried_listed _ (by simp)) accepted

theorem tiertex_passed
    (declined : LongTrack.gremlin.codec.accepted? source = none) :
    LongTrack.tiertex.codec.accepted? source = none := by
  have alike : (LongTrack.tiertex.codec.accepted? source).map Track.offset =
      (LongTrack.gremlin.codec.accepted? source).map Track.offset :=
    LongTrack.tiertex_alike source
  rwa [declined, Option.map_none, Option.map_eq_none_iff] at alike

-- Whatever is tried behind the protections.
theorem never_tiertex (others : List Codec) (listed : ∀ codec ∈ marked ++ others, codec ∈ codecs)
    (apart : Format.tiertex ∉ (marked.drop 3 ++ others).map Codec.format)
    (found : (marked ++ others).findSome? (·.accepted? source) = some track) :
    track.format ≠ .tiertex := by
  have parts : marked ++ others =
      LongTrack.protec.codec :: LongTrack.gremlin.codec :: LongTrack.tiertex.codec ::
        (marked.drop 3 ++ others) := rfl
  rw [parts] at listed found
  rw [List.findSome?_cons, List.findSome?_cons, List.findSome?_cons] at found
  split at found
  · rename_i accepted
    cases found
    rw [Codec.accepted_format (listed _ (by simp)) accepted]
    decide
  · split at found
    · rename_i accepted
      cases found
      rw [Codec.accepted_format (listed _ (by simp)) accepted]
      decide
    -- What Gremlin has declined Tiertex declines as well.
    · rename_i declined
      rw [tiertex_passed declined] at found
      refine found_apart (fun codec member => listed codec ?_) apart found
      simp only [List.mem_cons]
      exact .inr (.inr (.inr member))

end

end Catalog

-- A turn that shows none of the marks is recognised by its length at most.
theorem Catalog.marked_unseen {source : Revolution}
    (unseen : ∀ t ∈ LongTrack.all, ∀ mark ∈ t.mark, ∀ n, mark.seenAt source n = false) :
    marked.findSome? (·.accepted? source) = none := by
  have parts : marked = (LongTrack.all.take 7).map LongTrack.codec ++ [KeyTrack.codec] := rfl
  rw [List.findSome?_eq_none_iff, parts]
  intro codec member
  rcases List.mem_append.mp member with long | key
  · obtain ⟨t, tried, rfl⟩ := List.mem_map.mp long
    have table : ∀ t ∈ LongTrack.all.take 7, t ∈ LongTrack.all ∧ t.mark.isSome := by decide
    obtain ⟨listed, sought⟩ := table t tried
    obtain ⟨mark, marked⟩ := Option.isSome_iff_exists.mp sought
    exact Codec.declines (LongTrack.outcome_unseen marked _ (unseen t listed mark marked))
  · obtain rfl := List.mem_singleton.mp key
    -- The key track is led in by a mark of the same cells as that of Power Pack.
    have listed : LongTrack.powerPack ∈ LongTrack.all := by decide
    exact Codec.declines (KeyTrack.outcome_unled _ (unseen _ listed KeyTrack.leadMark rfl))

namespace RType

-- A block of zeros in a turn that is long enough for an empty track.
def zeroTrack : Track :=
  { Track.new .rTypeA geometryA with
    offset := 105495, total := 105500, data := List.replicate 5968 0 }

def zeroTurn : Revolution := (codecA.emit zeroTrack).toRevolution

theorem split_zeros (n : Nat) :
    Encoding.splitBits (List.replicate n 0) = List.replicate (8 * n) false := by
  have half : List.replicate 4 false = copies 4 [false] := rfl
  have halves : Encoding.evenBits 8 (0 : UInt8).toNat = List.replicate 4 false ∧
      Encoding.oddBits 8 (0 : UInt8).toNat = List.replicate 4 false := by
    decide
  have copied : (List.replicate n (List.replicate 4 false)).flatten =
      List.replicate (n * 4) false := by
    change copies n _ = _
    rw [half, copies_copies, copies_one]
  rw [Encoding.splitBits, List.flatMap_def, List.flatMap_def, List.map_replicate,
    List.map_replicate, halves.1, halves.2, copied, List.replicate_append_replicate]
  congr 1
  omega

theorem zero_bits : blockA.bits (List.replicate 5968 0) = List.replicate 47768 false := by
  have sum : checksum (List.replicate 5968 0) = 0 := by decide +kernel
  have lead : Bits.ofNat 8 0 ++ Encoding.oddBits 32 (0 : UInt32).toNat =
      List.replicate 24 false := by
    decide
  change _ ++ (_ ++ _) = _
  rw [sum, ← List.append_assoc, lead, split_zeros, List.replicate_append_replicate]

theorem zero_filled : (codecA.emit zeroTrack).filled.toList =
    mark.cells ++ [false, false] ++ copies 52741 [true, false] := by
  have lays := variantA.lays zeroTrack 105500 105495
  have bits : variantA.bits zeroTrack.data = List.replicate 47768 false := zero_bits
  obtain ⟨total, -⟩ := variantA.placed zeroTrack 105500 105495
  rw [bits] at lays
  have sized : mark.cells.length + 2 * ((List.replicate 47768 false).length + 4974) =
      (variantA.encode zeroTrack (Emission.start 105500 105495)).total := by
    rw [total, List.length_replicate]
    rfl
  have whole := Emission.filled_whole lays sized
  have first : mfmCells (mark.cells.getLastD false) (false :: List.replicate 52741 false) =
      [false, false] ++ copies 52741 [true, false] := by
    rw [mfmCells, mfm_zeros]
    rfl
  rw [List.replicate_append_replicate, List.replicate_succ, first, ← List.append_assoc] at whole
  exact whole

theorem zero_unseen : ∀ t ∈ LongTrack.all, ∀ other ∈ t.mark, ∀ n,
    other.seenAt zeroTurn n = false := by
  intro t listed other marked n
  have table : ∀ t ∈ LongTrack.all, ∀ other ∈ t.mark, ¬ other.core <:+:
      mark.cells ++ [false, false] ++ copies (16 + 1) [true, false] ++
        (mark.cells ++ [false, false] ++ copies 7 [true, false]) := by
    decide +kernel
  obtain ⟨proper, starts⟩ := LongTrack.marks_start t listed marked
  have total : (codecA.emit zeroTrack).total = 105500 :=
    (variantA.placed zeroTrack 105500 105495).1
  refine Emission.unseen proper starts (by rw [total]; decide) ?_ n
  have front : (mark.cells ++ [false, false] ++ copies 52741 [true, false]).take 32 =
      mark.cells ++ [false, false] ++ copies 7 [true, false] := by
    rw [copies_add _ 7 52734, ← List.append_assoc]
    exact List.take_left' rfl
  rw [zero_filled, front]
  exact apart_of_few (Sync.core_short proper) (by decide) (table t listed other marked)

end RType

theorem slow_detected : Track.detect? slowTurn = some slowTrack := by
  have fills : LongTrack.gremlin.Fills 120000 1984 := by constructor <;> decide
  have unseen : ∀ n, (Sync.short 0x4454).seenAt slowTurn n = false :=
    LongTrack.turn_unseen rfl rfl rfl fills ⟨.inl rfl, by decide⟩ (by decide) (by decide +kernel)
  refine Catalog.detected .gremlin (by decide) ?_ (Codec.accepts slow_recognised)
  intro codec tried
  obtain rfl := List.mem_singleton.mp tried
  exact Codec.declines (LongTrack.outcome_unseen rfl _ unseen)

namespace RType

theorem zero_detected :
    Track.detect? zeroTurn =
      some { Track.new .empty .none with offset := 55000, total := 110000 } := by
  have length : zeroTurn.length = 105500 := variantA.written_length zeroTrack _ _
  have outcome := LongTrack.empty_outcome (Track.new .empty .none) zeroTurn
  rw [length, if_pos (by decide)] at outcome
  exact Catalog.detected .empty (by decide)
    (List.findSome?_eq_none_iff.mp (Catalog.marked_unseen zero_unseen)) (Codec.accepts outcome)

theorem zero_accepted : codecA.accepted? zeroTurn =
    some (found (Track.new .rTypeA geometryA) geometryA (zeroTrack.offset % zeroTrack.total)
      zeroTrack.data) := by
  have search := variantA.search_own zeroTrack zeroTrack.total zeroTrack.offset
    List.length_replicate (by decide)
  exact Codec.accepts ((outcome_A _ zeroTurn).trans (congrArg (Functor.map _) search))

end RType

-- How the two ways compare on one source.
structure Disk.Agree (disk : Disk) (n : Nat) (source : Revolution) : Prop where
  settled : ∃ found, disk.Identifies n Catalog.trialOrder source found
  protection : ∀ track, Track.detect? source = some track → track.format ≠ .empty →
    disk.Identifies n Catalog.trialOrder source (some track)
  alone : (∀ codec ∈ Catalog.rTypes, codec.accepted? source = none) →
    disk.Identifies n Catalog.trialOrder source (Track.detect? source)
  rType : (∀ track, Track.detect? source = some track → track.format = .empty) →
    (∃ codec ∈ Catalog.rTypes, (codec.accepted? source).isSome = true) →
      ∃ codec ∈ Catalog.rTypes, ∃ track, codec.accepted? source = some track ∧
        track.format = codec.format ∧ disk.Identifies n Catalog.trialOrder source (some track)
  undetected : ∀ track, Track.detect? source = some track → track.format ≠ .tiertex
  unidentified : (disk.identify n Catalog.trialOrder source).1.result ≠ .ok (some .tiertex)
  alike : (LongTrack.tiertex.codec.accepted? source).map Track.offset =
    (LongTrack.gremlin.codec.accepted? source).map Track.offset
  earlier : [Format.gremlin, .tiertex].Sublist Catalog.trialOrder ∧
    [Format.gremlin, .tiertex].Sublist (Catalog.protectionOrder.map Codec.format)

namespace Catalog

-- Both ways start with the marked protections and end with the empty track.
theorem detect_parts (source : Revolution) : Track.detect? source =
    (marked.findSome? (·.accepted? source)).or
      ([LongTrack.empty.codec].findSome? (·.accepted? source)) :=
  (detect_marked source).trans List.findSome?_append

theorem detects_no_tiertex {source : Revolution} {track : Track}
    (found : Track.detect? source = some track) : track.format ≠ .tiertex := by
  refine never_tiertex [LongTrack.empty.codec] ?_ (by decide) ((detect_marked source).symm.trans found)
  intro codec member
  apply tried_listed
  simp only [List.mem_append] at member ⊢
  exact member.imp_right .inr

end Catalog

namespace Disk

variable {disk : Disk} {n : Nat} {source : Revolution} {track : Track}

theorem identifies_tried (within : n < disk.size) (source : Revolution) :
    disk.Identifies n Catalog.trialOrder source
      ((Catalog.marked ++ (Catalog.rTypes ++ [LongTrack.empty.codec])).findSome?
        (·.accepted? source)) := by
  rw [Catalog.trial_order]
  exact identifies_first within source _ Catalog.tried_listed

theorem identifies_parts (within : n < disk.size) (source : Revolution) :
    disk.Identifies n Catalog.trialOrder source
      ((Catalog.marked.findSome? (·.accepted? source)).or
        ((Catalog.rTypes.findSome? (·.accepted? source)).or
          ([LongTrack.empty.codec].findSome? (·.accepted? source)))) := by
  have tried := identifies_tried within source
  rwa [List.findSome?_append, List.findSome?_append] at tried

theorem identifies_protection (within : n < disk.size) (found : Track.detect? source = some track)
    (format : track.format ≠ .empty) :
    disk.Identifies n Catalog.trialOrder source (some track) := by
  have tried := identifies_parts within source
  rw [Catalog.detect_parts] at found
  cases first : Catalog.marked.findSome? (·.accepted? source) with
  | none =>
    rw [first, Option.none_or] at found
    exact absurd (Catalog.empty_format found) format
  | some other =>
    rw [first, Option.some_or] at found tried
    rwa [found] at tried

theorem identifies_alone (within : n < disk.size)
    (declined : ∀ codec ∈ Catalog.rTypes, codec.accepted? source = none) :
    disk.Identifies n Catalog.trialOrder source (Track.detect? source) := by
  have tried := identifies_parts within source
  rwa [List.findSome?_eq_none_iff.mpr declined, Option.none_or, ← Catalog.detect_parts] at tried

theorem identifies_variant (within : n < disk.size)
    (plain : ∀ track, Track.detect? source = some track → track.format = .empty)
    (accepts : ∃ codec ∈ Catalog.rTypes, (codec.accepted? source).isSome = true) :
    ∃ codec ∈ Catalog.rTypes, ∃ track, codec.accepted? source = some track ∧
      track.format = codec.format ∧ disk.Identifies n Catalog.trialOrder source (some track) := by
  have tried := identifies_parts within source
  have first : Catalog.marked.findSome? (·.accepted? source) = none := by
    have detected := Catalog.detect_parts source
    cases first : Catalog.marked.findSome? (·.accepted? source) with
    | none => rfl
    | some other =>
      rw [first, Option.some_or] at detected
      exact absurd (plain other detected) (Catalog.marked_format first)
  obtain ⟨track, second⟩ := Option.isSome_iff_exists.mp (List.findSome?_isSome_iff.mpr accepts)
  rw [first, second, Option.none_or, Option.some_or] at tried
  obtain ⟨codec, member, accepted⟩ := List.exists_of_findSome?_eq_some second
  exact ⟨codec, member, track, accepted,
    Codec.accepted_format (List.mem_append_right _ member) accepted, tried⟩

theorem identifies_no_tiertex (within : n < disk.size) (source : Revolution) :
    (disk.identify n Catalog.trialOrder source).1.result ≠ .ok (some .tiertex) := by
  intro told
  rw [(identifies_tried within source).result, Except.ok.injEq, Option.map_eq_some_iff] at told
  obtain ⟨track, found, format⟩ := told
  exact Catalog.never_tiertex _ Catalog.tried_listed (by decide) found format

end Disk

theorem detection_agrees (disk : Disk) (n : Nat) (source : Revolution) (within : n < disk.size) :
    disk.Agree n source := by
  constructor
  case settled => exact ⟨_, Disk.identifies_tried within source⟩
  case protection => exact fun _ found format => Disk.identifies_protection within found format
  case alone => exact Disk.identifies_alone within
  case rType => exact Disk.identifies_variant within
  case undetected => exact fun _ found => Catalog.detects_no_tiertex found
  case unidentified => exact Disk.identifies_no_tiertex within source
  case alike => exact LongTrack.tiertex_alike source
  case earlier => decide

theorem turns_agree :
    0 < (Disk.blank 1).size ∧
      Track.detect? slowTurn = some slowTrack ∧ slowTrack.format ≠ .empty ∧
      (Disk.blank 1).Identifies 0 Catalog.trialOrder slowTurn (some slowTrack) ∧
      (∀ track, Track.detect? RType.zeroTurn = some track → track.format = .empty) ∧
      (∃ codec ∈ Catalog.rTypes, (codec.accepted? RType.zeroTurn).isSome = true) ∧
      ∃ codec ∈ Catalog.rTypes, ∃ track, codec.accepted? RType.zeroTurn = some track ∧
        track.format = codec.format ∧
        (Disk.blank 1).Identifies 0 Catalog.trialOrder RType.zeroTurn (some track) := by
  have within : 0 < (Disk.blank 1).size := by decide
  have marked : slowTrack.format ≠ .empty := by decide
  have empty : ∀ track, Track.detect? RType.zeroTurn = some track → track.format = .empty := by
    intro track found
    cases RType.zero_detected.symm.trans found
    rfl
  have accepts : ∃ codec ∈ Catalog.rTypes, (codec.accepted? RType.zeroTurn).isSome = true :=
    ⟨RType.codecA, List.mem_cons_self, by rw [RType.zero_accepted]; rfl⟩
  exact ⟨within, slow_detected, marked,
    (detection_agrees (Disk.blank 1) 0 slowTurn within).protection _ slow_detected marked, empty,
    accepts, (detection_agrees (Disk.blank 1) 0 RType.zeroTurn within).rType empty accepts⟩

end FloppyTrack
