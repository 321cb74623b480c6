import TierRelay.Text.Split
import TierRelay.Url.Domain.Joiner
import TierRelay.Url.Domain.Mapping
import TierRelay.Url.Domain.Mark
import TierRelay.Url.Punycode

/-!
Domain names in ASCII. A label with other characters is written in Punycode after `xn--`. Of the
rules for international names those about the direction of writing are left out, and the tables
behind the others are not complete.
-/

namespace TierRelay.Url.Domain

open TierRelay.Text

def isAscii (label : List Char) : Bool :=
  label.all fun c => c.toNat < 0x80

def isForbidden (c : Char) : Bool :=
  c.toNat ≤ 0x20 || c.toNat = 0x7F ||
    c ∈ ['%', '#', '/', ':', '<', '>', '?', '@', '[', '\\', ']', '^', '|']

def folded? (label : List Char) : Option (List Char) :=
  (label.mapM fold?).map fun folded => composed folded.flatten

def isWellFormed (label : List Char) : Bool :=
  !(label.head?.any fun c => inRun markRuns c.toNat) && joinersFit none label

/-- A label in Punycode must stand for a label that needs it and that is already folded. -/
def encodedLabel? (label : List Char) : Option (List Char) :=
  match label with
  | 'x' :: 'n' :: '-' :: '-' :: digits => do
    let decoded ← Punycode.decode? digits
    if ¬ isAscii decoded ∧ folded? decoded = some decoded ∧ isWellFormed decoded then some label
    else none
  | _ =>
    if isAscii label then some label
    else if isWellFormed label then some (['x', 'n', '-', '-'] ++ Punycode.encode label)
    else none

def joined : List (List Char) → List Char
  | [] => []
  | [label] => label
  | label :: rest => label ++ '.' :: joined rest

def toAscii? (name : List Char) : Option (List Char) := do
  let name ← folded? name
  let labels ← (parts '.' name).mapM encodedLabel?
  let ascii := joined labels
  if ascii.any isForbidden then none else some ascii

end TierRelay.Url.Domain
