import FloppyTrack.Flaw
import FloppyTrack.Sync
import FloppyTrack.Fault

set_option autoImplicit false

namespace FloppyTrack

inductive Level where
  | trace
  | debug
  | info
  | warn
deriving DecidableEq, Repr

def Level.name : Level → String
  | trace => "TRACE"
  | debug => "DEBUG"
  | info => "INFO"
  | warn => "WARN"

inductive Event where
  | rejected (format : Format) (mark : Sync) (offset : Nat) (why : Flaw)
  | accepted (format : Format) (mark : Sync) (offset candidates : Nat)
  | gaveUp (format : Format) (offset : Nat) (error : Fault)
  | exhausted (format : Format) (candidates : Nat)
  | measured (format : Format) (bits : Nat)
  | overrun (emitted total : Nat)
  | placed (emitted offset gap : Nat)
  | decoded (track : Nat) (format : Format) (total offset size : Nat)
  | mismatched (track : Nat) (format : Format) (error : Fault)
deriving DecidableEq, Repr

namespace Event

def level : Event → Level
  | rejected .. => .trace
  | decoded .. => .info
  | overrun .. => .warn
  | accepted .. | gaveUp .. | exhausted .. | measured .. | placed .. | mismatched .. => .debug

def message : Event → String
  | rejected format mark offset why =>
    format.name ++ ": rejected sync " ++ mark.text ++ s!" at bit {offset}: " ++ why.text
  | accepted format mark offset candidates =>
    format.name ++ ": accepted sync " ++ mark.text ++
      s!" at bit {offset} after {candidates} candidate(s)"
  | gaveUp format offset error =>
    format.name ++ s!": giving up at bit {offset}: " ++ error.message
  | exhausted format candidates =>
    format.name ++ s!": stream exhausted after {candidates} candidate(s)"
  | measured format bits => format.name ++ s!": revolution of {bits} bits"
  | overrun emitted total =>
    s!"Track data overruns revolution: {emitted} of {total} bitcells, truncating"
  | placed emitted offset gap => s!"Emitted {emitted} bitcells at offset {offset}, gap {gap}"
  | decoded track format total offset size =>
    s!"T{track}: " ++ format.description ++
      s!" ({total} bits, data at {offset}, {size} bytes)"
  | mismatched track format error =>
    s!"T{track}: not " ++ format.name ++ ": " ++ error.message

end Event

structure Report (α : Type) where
  result : Except Fault α
  events : List Event

def Report.map {α β : Type} (f : α → β) (report : Report α) : Report β :=
  ⟨f <$> report.result, report.events⟩

end FloppyTrack
