import TierRelay.File
import TierRelay.Json.Raw
import TierRelay.Record.Store

namespace TierRelay

structure Seed where
  episodes : List Json := []
  profiles : List Json := []

namespace Seed

open Json

def list? : Raw → Option (List Json)
  | .array items => Raw.items? (depthLimit - 2) items
  | _ => none

def ofMembers? : List (List Piece × Raw) → Option (List Json) → Option (List Json) → Option Seed
  | [], episodes, profiles => some ⟨episodes.getD [], profiles.getD []⟩
  | (name, value) :: rest, episodes, profiles => do
    match RecordKind.ofName? (← Json.string? name), episodes, profiles with
    | some .episodes, none, _ => ofMembers? rest (some (← list? value)) profiles
    | some .profiles, _, none => ofMembers? rest episodes (some (← list? value))
    | none, _, _ => ofMembers? rest episodes profiles
    | _, _, _ => none

def ofRaw? : Raw → Option Seed
  | .object members => ofMembers? members none none
  | .array [] => some {}
  | .array [episodes] => do return ⟨← list? episodes, []⟩
  | .array [episodes, profiles] => do return ⟨← list? episodes, ← list? profiles⟩
  | _ => none

def parse? (text : String) : Option Seed :=
  (Raw.parse? text.toList).bind ofRaw?

end Seed

namespace Store

def ofSeed (seed : Seed) : Store :=
  (empty.extend .episodes seed.episodes).extend .profiles seed.profiles

inductive Error
  | unavailable (text : String)
  | unreadable (cause : File.Error)
  | malformed
  deriving DecidableEq

def Error.message : Error → String
  | .unavailable text => "store unavailable: " ++ text
  | .unreadable cause => "failed to read seed file: " ++ cause.message
  | .malformed => "malformed seed data"

def load (file : File) : Except Error Store :=
  match file.text with
  | .error cause => .error (.unreadable cause)
  | .ok text =>
    match Seed.parse? text with
    | none => .error .malformed
    | some seed => .ok (ofSeed seed)

end Store

end TierRelay
