import FloppyTrack.Proofs.Identify
import FloppyTrack.Proofs.KeyTrack
import FloppyTrack.Proofs.LongTrack
import FloppyTrack.Proofs.RType.RoundTrip

set_option autoImplicit false

namespace FloppyTrack

abbrev InPlace : Type → Type := ExceptT Fault (StateT Track Reader)

namespace InPlace

variable {α β : Type}

-- The track is left alone while cells are read.
def reads (x : Reader (Except Fault α)) : InPlace α := ExceptT.mk (StateT.lift x)

def search (x : Reader (Report α)) : InPlace α := reads (return (← x).result)

def runIn (x : InPlace α) (track : Track) (c : Cursor) : (Except Fault α × Track) × Cursor :=
  (x.run.run track).run c

theorem run_modify (f : Track → Track) (track : Track) (c : Cursor) :
    (modify f : InPlace PUnit).runIn track c = ((.ok ⟨⟩, f track), c) := rfl

theorem run_reads (x : Reader (Except Fault α)) (track : Track) (c : Cursor) :
    (reads x).runIn track c = (((x.run c).1, track), (x.run c).2) := rfl

theorem run_search (x : Reader (Report α)) (track : Track) (c : Cursor) :
    (search x).runIn track c = (((x.run c).1.result, track), (x.run c).2) := rfl

theorem run_bind (x : InPlace α) (f : α → InPlace β) (track : Track) (c : Cursor) :
    (x >>= f).runIn track c =
      match x.runIn track c with
      | ((.ok a, next), d) => (f a).runIn next d
      | ((.error fault, left), d) => ((.error fault, left), d) := by
  unfold runIn
  rw [ExceptT.run_bind, StateT.run_bind, Reader.run_bind]
  rcases (x.run.run track).run c with ⟨⟨_ | _, next⟩, d⟩ <;> rfl

end InPlace

namespace LongTrack

def setTotal (t : LongTrack) : InPlace Unit :=
  match t.total with
  | some total => modify ({ · with total })
  | none => pure ()

def storeMeasured (t : LongTrack) : InPlace (List UInt8) := do
  t.setTotal
  modify fun track => { track with offset := track.total / 2 }
  modify ({ · with size := 0 })
  return []

def storeFound (t : LongTrack) (place : Nat × List UInt8) : InPlace (List UInt8) := do
  modify ({ · with offset := place.1 })
  t.setTotal
  modify ({ · with size := place.2.length })
  return place.2

def fillIn (t : LongTrack) : InPlace (List UInt8) :=
  match t.mark with
  | none => do
    let _ ← InPlace.reads (Reader.length t.format (t.minimum.getD 0))
    t.storeMeasured
  | some mark => do
    let place ← InPlace.search (scan t.format mark t.look)
    t.storeFound place

end LongTrack

namespace KeyTrack

def store (data : List UInt8) : InPlace (List UInt8) := do
  modify ({ · with size })
  modify ({ · with offset := 76000 })
  modify ({ · with total := 101500 })
  return data

def fillIn : InPlace (List UInt8) := do
  if ← InPlace.reads (return .ok (← Reader.seekMark leadMark)) then
    let data ← InPlace.search (scan .sevenCities dataMark look)
    store data
  else throw (.noMatch .sevenCities)

end KeyTrack

namespace RType

def setBlock (geometry : Geometry) (offset : Nat) : InPlace Unit := do
  modify ({ · with offset })
  modify ({ · with size := geometry.size })
  modify ({ · with geometry })
  modify ({ · with goodSectors := geometry.fullMask })

def storeA (place : Nat × List UInt8) : InPlace (List UInt8) := do
  setBlock geometryA place.1
  return place.2

def storeB (place : Nat × List UInt8) : InPlace (List UInt8) := do
  setBlock geometryB place.1
  modify ({ · with total := 105500 })
  return place.2

def fillInA : InPlace (List UInt8) := do
  let place ← InPlace.search (scan .rTypeA mark lookA)
  storeA place

def fillInB : InPlace (List UInt8) := do
  let place ← InPlace.search (scan .rTypeB mark lookB)
  storeB place

end RType

def Codec.fillIn (codec : Codec) : InPlace (List UInt8) :=
  match codec.format with
  | .sevenCities => KeyTrack.fillIn
  | .rTypeA => RType.fillInA
  | .rTypeB => RType.fillInB
  | format =>
    match LongTrack.ofFormat? format with
    | some t => t.fillIn
    | none => throw (.unknownFormat format.name)

-- The data is returned, and every other field is set in the track that was given.
def Track.filled (start : Track) : Except Fault Track → Except Fault (List UInt8) × Track
  | .ok track => (.ok track.data, { track with data := start.data })
  | .error fault => (.error fault, start)

namespace InPlace

variable {α : Type}

-- A search whose every find is stored without fail.
theorem run_stored {store : α → InPlace (List UInt8)} {found : Track → α → Track}
    (stores : ∀ a track c,
      (store a).runIn track c = (track.filled (.ok (found track a)), c))
    (x : Reader (Report α)) (start : Track) (c : Cursor) :
    (search x >>= store).runIn start c =
      (start.filled (found start <$> (x.run c).1.result), (x.run c).2) := by
  rw [run_bind, run_search]
  cases (x.run c).1.result with
  | ok a => exact stores a start _
  | error fault => rfl

end InPlace

namespace LongTrack

variable {t : LongTrack}

theorem set_total (t : LongTrack) (track : Track) (c : Cursor) :
    t.setTotal.runIn track c = ((.ok (), { track with total := t.total.getD track.total }), c) := by
  unfold setTotal
  cases t.total <;> rfl

theorem store_measured (t : LongTrack) (track : Track) (c : Cursor) :
    t.storeMeasured.runIn track c = (track.filled (.ok (t.measuredAs track)), c) := by
  unfold storeMeasured
  rw [InPlace.run_bind, set_total]
  rfl

theorem store_found (t : LongTrack) (place : Nat × List UInt8) (track : Track) (c : Cursor) :
    (t.storeFound place).runIn track c =
      (track.filled (.ok (t.found track place.1 place.2)), c) := by
  unfold storeFound
  rw [InPlace.run_bind, InPlace.run_modify]
  dsimp only
  rw [InPlace.run_bind, set_total]
  rfl

theorem fill_in_run (t : LongTrack) (start : Track) (c : Cursor) :
    t.fillIn.runIn start c =
      (start.filled ((t.codec.decode start).run c).1.result, ((t.codec.decode start).run c).2) := by
  unfold fillIn
  cases marked : t.mark with
  | none =>
    rw [decode_measures marked, measure, Reader.run_bind]
    dsimp only
    rw [InPlace.run_bind, InPlace.run_reads]
    cases ((Reader.length t.format (t.minimum.getD 0)).run c).1 with
    | error error => rfl
    | ok measured => exact store_measured t start _
  | some mark =>
    rw [decode_scans marked]
    exact InPlace.run_stored t.store_found _ start c

end LongTrack

namespace KeyTrack

theorem store_kept (data : List UInt8) (track : Track) (c : Cursor) :
    (store data).runIn track c = (track.filled (.ok (keep track data)), c) := rfl

theorem fill_in_run (start : Track) (c : Cursor) :
    fillIn.runIn start c =
      (start.filled ((codec.decode start).run c).1.result, ((codec.decode start).run c).2) := by
  change fillIn.runIn start c =
    (start.filled ((decode start).run c).1.result, ((decode start).run c).2)
  unfold fillIn decode
  rw [InPlace.run_bind, InPlace.run_reads, Reader.run_bind, Reader.run_bind]
  cases ((Reader.seekMark leadMark).run c).1 with
  | false => rfl
  | true => exact InPlace.run_stored store_kept _ start _

end KeyTrack

namespace RType

theorem store_A (place : Nat × List UInt8) (track : Track) (c : Cursor) :
    (storeA place).runIn track c =
      (track.filled (.ok (found track geometryA place.1 place.2)), c) := rfl

theorem store_B (place : Nat × List UInt8) (track : Track) (c : Cursor) :
    (storeB place).runIn track c =
      (track.filled (.ok { found track geometryB place.1 place.2 with total := 105500 }), c) := rfl

theorem fill_in_A_run (start : Track) (c : Cursor) :
    fillInA.runIn start c =
      (start.filled ((codecA.decode start).run c).1.result, ((codecA.decode start).run c).2) :=
  InPlace.run_stored store_A (scan .rTypeA mark lookA) start c

theorem fill_in_B_run (start : Track) (c : Cursor) :
    fillInB.runIn start c =
      (start.filled ((codecB.decode start).run c).1.result, ((codecB.decode start).run c).2) :=
  InPlace.run_stored store_B (scan .rTypeB mark lookB) start c

end RType

theorem LongTrack.codec_fill_in (t : LongTrack) (listed : t ∈ all) : t.codec.fillIn = t.fillIn := by
  simp only [all, List.mem_cons, List.not_mem_nil, or_false] at listed
  rcases listed with rfl | rfl | rfl | rfl | rfl | rfl | rfl | rfl <;> rfl

theorem Codec.fill_in_run (codec : Codec) (listed : codec ∈ Catalog.codecs) (start : Track)
    (c : Cursor) :
    codec.fillIn.runIn start c =
      (start.filled ((codec.decode start).run c).1.result, ((codec.decode start).run c).2) := by
  refine Catalog.codec_cases (p := fun codec => codec.fillIn.runIn start c =
    (start.filled ((codec.decode start).run c).1.result, ((codec.decode start).run c).2)) ?_ ?_ ?_ ?_
    codec listed
  · intro t member
    rw [t.codec_fill_in member]
    exact t.fill_in_run start c
  · exact KeyTrack.fill_in_run start c
  · exact RType.fill_in_A_run start c
  · exact RType.fill_in_B_run start c

end FloppyTrack
