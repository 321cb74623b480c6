import TierRelay.Tier.Event

/-!
A filter is a list of directives, each of which sets the least level for some part of the program;
the directive with the longest name of a part decides.
-/

namespace TierRelay.Log

structure Directive where
  /-- The beginning of the names of the parts it is for; `none` is for all. -/
  target : Option (List Char)
  /-- `none` keeps nothing. -/
  level : Option Level
  deriving DecidableEq

def levelOf? (text : List Char) : Option (Option Level) :=
  match (String.ofList text).toLower with
  | "off" | "0" => some none
  | "error" | "1" => some (some .error)
  | "warn" | "2" => some (some .warn)
  | "info" | "3" => some (some .info)
  | "debug" | "4" => some (some .debug)
  | "trace" | "5" => some (some .trace)
  | _ => none

def isTargetChar (c : Char) : Bool :=
  c.isAlphanum || c = '_' || c = ':' || c = '-'

def Directive.ofText? (text : List Char) : Option Directive :=
  match levelOf? text with
  | some level => some ⟨none, level⟩
  | none =>
    let target := text.takeWhile isTargetChar
    if target = [] then none
    else match text.dropWhile isTargetChar with
      | [] => some ⟨some target, some .trace⟩
      | ['='] => some ⟨some target, some .trace⟩
      | '=' :: level => (levelOf? level).map fun level => ⟨some target, level⟩
      | _ => none

abbrev Filter := List Directive

namespace Filter

def texts (text : String) : List (List Char) :=
  (Text.parts ',' text.toList).filter (· ≠ [])

def ofDirectives : List Directive → Filter
  | [] => [⟨none, some .error⟩]
  | directives => directives

def parse? (text : String) : Option Filter :=
  ((texts text).mapM Directive.ofText?).map ofDirectives

def parseLossy (text : String) : Filter :=
  ofDirectives ((texts text).filterMap Directive.ofText?)

def severity : Level → Nat
  | .error => 1
  | .warn => 2
  | .info => 3
  | .debug => 4
  | .trace => 5

def specificity (d : Directive) : Nat :=
  match d.target with
  | none => 0
  | some target => target.length + 1

def decisive? (f : Filter) (part : List Char) : Option Directive :=
  let matching := f.filter fun d => (d.target.getD []).isPrefixOf part
  matching.foldl
    (fun best d =>
      match best with
      | none => some d
      | some b => if specificity b ≤ specificity d then some d else some b)
    none

def keeps (f : Filter) (part : String) (level : Level) : Bool :=
  match (f.decisive? part.toList).bind Directive.level with
  | none => false
  | some least => severity level ≤ severity least

def choose (environment : Option String) (level : String) : Filter :=
  match environment.bind parse? with
  | some f => f
  | none => parseLossy ("paging_relay=" ++ level ++ ",tower_http=" ++ level)

end Filter

end TierRelay.Log
