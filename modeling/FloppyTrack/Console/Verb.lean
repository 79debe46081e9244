set_option autoImplicit false

namespace FloppyTrack.Console

inductive Verb where
  | help
  | quit
  | load
  | track
  | info
  | types
  | decode
  | identify
  | protection
  | encode
  | verify
  | dump
  | save
deriving DecidableEq, Repr

namespace Verb

def ofWord? : String → Option Verb
  | "help" => some help
  | "quit" | "exit" => some quit
  | "load" | "open" => some load
  | "track" => some track
  | "info" => some info
  | "types" => some types
  | "decode" => some decode
  | "identify" => some identify
  | "protection" => some protection
  | "encode" => some encode
  | "verify" => some verify
  | "dump" => some dump
  | "save" => some save
  | _ => none

def words : List String :=
  ["decode", "dump", "encode", "exit", "help", "identify", "info", "load", "protection", "quit",
    "save", "track", "types", "verify"]

end Verb

end FloppyTrack.Console
