import TierRelay.Json.Value

namespace TierRelay

inductive RecordKind
  | episodes
  | profiles
  deriving DecidableEq, Repr

namespace RecordKind

def name : RecordKind → String
  | episodes => "episodes"
  | profiles => "profiles"

def ofName? : String → Option RecordKind
  | "episodes" => some episodes
  | "profiles" => some profiles
  | _ => none

theorem ofName?_name (k : RecordKind) : ofName? k.name = some k := by
  cases k <;> rfl

end RecordKind

structure PerKind (α : Type) where
  episodes : α
  profiles : α
  deriving DecidableEq

namespace PerKind

def get {α : Type} (p : PerKind α) : RecordKind → α
  | .episodes => p.episodes
  | .profiles => p.profiles

def set {α : Type} (p : PerKind α) (k : RecordKind) (a : α) : PerKind α :=
  match k with
  | .episodes => { p with episodes := a }
  | .profiles => { p with profiles := a }

@[simp] theorem get_set_self {α : Type} (p : PerKind α) (k : RecordKind) (a : α) :
    (p.set k a).get k = a := by
  cases k <;> rfl

theorem get_set_of_ne {α : Type} (p : PerKind α) {k k' : RecordKind} (h : k' ≠ k) (a : α) :
    (p.set k a).get k' = p.get k' := by
  cases k <;> cases k' <;> first | rfl | exact absurd rfl h

end PerKind

end TierRelay
