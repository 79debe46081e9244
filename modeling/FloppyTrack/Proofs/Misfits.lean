import FloppyTrack.Proofs.Identify
import FloppyTrack.Proofs.KeyTrack
import FloppyTrack.Proofs.LongTrack
import FloppyTrack.Proofs.RType.RoundTrip

set_option autoImplicit false

namespace FloppyTrack

namespace Reader

variable {α β : Type}

-- What the reader returns, wherever it starts.
def Always (x : Reader α) (p : α → Prop) : Prop := ∀ c, p (x.run c).1

theorem always_pure {p : α → Prop} {a : α} (holds : p a) : (pure a : Reader α).Always p :=
  fun _ => holds

theorem always_bind {x : Reader α} {f : α → Reader β} {q : α → Prop} {p : β → Prop}
    (first : x.Always q) (rest : ∀ a, q a → (f a).Always p) : (x >>= f).Always p :=
  fun c => rest _ (first c) _

theorem always_then {x : Reader α} {f : α → Reader β} {p : β → Prop}
    (rest : ∀ a, (f a).Always p) : (x >>= f).Always p :=
  fun _ => rest _ _

theorem length_misfits (format : Format) (minimum : Nat) :
    (length format minimum).Always fun measured =>
      ∀ error, measured = .error error → error.isMisfit = true := by
  refine always_then fun _ => always_then fun measured => always_pure ?_
  intro error short
  split at short
  · cases short
  · cases short
    rfl

end Reader

theorem Except.error_of_map {ε α β : Type} {f : α → β} {result : Except ε α} {error : ε}
    (failed : f <$> result = .error error) : result = .error error := by
  cases result with
  | ok value => cases failed
  | error other =>
    cases failed
    rfl

section
variable {α : Type}

-- A look gives up for no other reason than that the format does not fit.
def Finding.Misfits : Finding α → Prop
  | .accept _ => True
  | .reject _ => True
  | .giveUp error => error.isMisfit = true

namespace Scan

variable {mark : Sync} {look : Reader (Finding α)}

theorem loop_misfits (format : Format) (misfits : look.Always Finding.Misfits) (candidates : Nat)
    (log : List Event) (c : Cursor) {error : Fault}
    (failed : (loop format mark look candidates log c).1.result = .error error) :
    error.isMisfit = true := by
  fun_induction loop format mark look candidates log c with
  | case1 candidates log c d sought =>
    cases failed
    rfl
  | case2 candidates log c d sought offset value e looked => cases failed
  | case3 candidates log c d sought offset why e looked ih => exact ih failed
  | case4 candidates log c d sought offset found e looked =>
    cases failed
    have here := misfits d
    rwa [looked] at here

theorem scan_misfits {β : Type} (f : α → β) (format : Format)
    (misfits : look.Always Finding.Misfits) (c : Cursor) {error : Fault}
    (failed : f <$> ((scan format mark look).run c).1.result = .error error) :
    error.isMisfit = true :=
  loop_misfits format misfits 0 [] c (Except.error_of_map failed)

end Scan

end

namespace LongTrack

theorem read_length_misfits (t : LongTrack) :
    t.readLength.Always fun measured => ∀ error, measured = .error error → error.isMisfit = true := by
  unfold readLength
  cases t.minimum with
  | none => exact Reader.always_pure nofun
  | some minimum =>
    refine Reader.always_bind (Reader.length_misfits t.format minimum) fun measured misfits => ?_
    cases measured with
    | ok bits => exact Reader.always_pure nofun
    | error short =>
      refine Reader.always_pure ?_
      intro error same
      cases same
      exact misfits short rfl

theorem look_misfits (t : LongTrack) : t.look.Always Finding.Misfits := by
  refine Reader.always_then fun offset => Reader.always_then fun signed => ?_
  cases signed with
  | error why => exact Reader.always_pure True.intro
  | ok _ =>
    refine Reader.always_then fun filled => ?_
    cases filled with
    | error why => exact Reader.always_pure True.intro
    | ok byte =>
      refine Reader.always_bind (read_length_misfits t) fun measured misfits => ?_
      cases measured with
      | error error => exact Reader.always_pure (misfits error rfl)
      | ok _ => exact Reader.always_pure True.intro

theorem outcome_misfits (t : LongTrack) {start : Track} {r : Revolution} {error : Fault}
    (failed : t.codec.outcome start r = .error error) : error.isMisfit = true := by
  cases marked : t.mark with
  | none =>
    rw [outcome_measured marked] at failed
    split at failed
    · cases failed
    · cases failed
      rfl
  | some mark =>
    rw [outcome_scan marked] at failed
    exact Scan.scan_misfits _ t.format t.look_misfits _ failed

end LongTrack

theorem KeyTrack.outcome_misfits {start : Track} {r : Revolution} {error : Fault}
    (failed : codec.outcome start r = .error error) : error.isMisfit = true := by
  have misfits : look.Always Finding.Misfits := by
    refine Reader.always_then fun _ => Reader.always_then fun data => Reader.always_then fun crc => ?_
    cases data with
    | none => exact Reader.always_pure True.intro
    | some data =>
      dsimp only
      split <;> exact Reader.always_pure True.intro
  change ((decode start).run _).1.result = _ at failed
  unfold decode at failed
  rw [Reader.run_bind] at failed
  split at failed
  · exact Scan.scan_misfits (keep start) .sevenCities misfits _ failed
  · cases failed
    rfl

namespace RType

theorem look_A_misfits : lookA.Always Finding.Misfits := by
  have spent : (pure (.giveUp (.noMatch .rTypeA)) : Reader (Finding (Nat × List UInt8))).Always
    Finding.Misfits := Reader.always_pure rfl
  refine Reader.always_then fun offset => Reader.always_then fun marker => ?_
  cases marker with
  | none => exact spent
  | some marker =>
    dsimp only
    split
    · exact Reader.always_pure True.intro
    · refine Reader.always_then fun word => ?_
      cases word with
      | none => exact spent
      | some word =>
        refine Reader.always_then fun raw => ?_
        cases raw with
        | none => exact spent
        | some raw =>
          dsimp only
          split <;> exact Reader.always_pure True.intro

theorem look_B_misfits : lookB.Always Finding.Misfits := by
  have spent : (pure (.giveUp (.noMatch .rTypeB)) : Reader (Finding (Nat × List UInt8))).Always
    Finding.Misfits := Reader.always_pure rfl
  refine Reader.always_then fun offset => Reader.always_then fun marker => ?_
  cases marker with
  | none => exact spent
  | some marker =>
    dsimp only
    split
    · exact Reader.always_pure True.intro
    · refine Reader.always_then fun raw => ?_
      cases raw with
      | none => exact spent
      | some raw =>
        refine Reader.always_then fun sum => ?_
        cases sum with
        | none => exact spent
        | some sum =>
          dsimp only
          split <;> exact Reader.always_pure True.intro

end RType

theorem Catalog.misfits (codec : Codec) (listed : codec ∈ codecs) (start : Track) (r : Revolution)
    {error : Fault} (failed : codec.outcome start r = .error error) : error.isMisfit = true := by
  revert failed
  refine codec_cases (p := fun codec => codec.outcome start r = .error error →
    error.isMisfit = true) ?_ ?_ ?_ ?_ codec listed
  · exact fun t _ => t.outcome_misfits
  · exact KeyTrack.outcome_misfits
  · rw [RType.outcome_A]
    exact Scan.scan_misfits _ .rTypeA RType.look_A_misfits _
  · rw [RType.outcome_B]
    exact Scan.scan_misfits _ .rTypeB RType.look_B_misfits _

end FloppyTrack
