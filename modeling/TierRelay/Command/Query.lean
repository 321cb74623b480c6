import TierRelay.Command.Arguments
import TierRelay.Tier.Forward

namespace TierRelay.Command

open Text

structure PageArguments where
  start : String
  finish : String
  page : Int := 1
  pageSize : Option Int := none
  path : Option String := none
  deriving DecidableEq

inductive Question
  | health
  | page (kind : RecordKind) (arguments : PageArguments)
  deriving DecidableEq

structure QueryArguments where
  base : String
  question : Question
  deriving DecidableEq

namespace PageArguments

def wordOf? (text : String) : Option Int :=
  integerWithin? 64 text.toList

def flags : List Flag :=
  let isWord (text : String) : Bool := (wordOf? text).isSome
  [{ long := "start" }, { long := "end" }, { long := "page", accepts := isWord },
    { long := "page-size", accepts := isWord }, { long := "path" }]

def ofValues (values : Values) : Except Stop PageArguments :=
  let word? (name : String) : Option Int := (values.lookup name).bind wordOf?
  match values.lookup "start", values.lookup "end" with
  | some start, some finish =>
    .ok ⟨start, finish, (word? "page").getD 1, word? "page-size", values.lookup "path"⟩
  | _, _ => .error .badArguments

def pairs (a : PageArguments) : Query.Form.Pairs :=
  let pageSize := match a.pageSize with
    | none => []
    | some n => [("pageSize", String.ofList (signed n))]
  [("page", String.ofList (signed a.page)), ("startDate", a.start), ("endDate", a.finish)] ++
    pageSize

end PageArguments

namespace QueryArguments

def defaultBase : String := "http://localhost:8080"

def questionOf (name : String) (arguments : List String) : Except Stop Question := do
  match name, RecordKind.ofName? name with
  | _, some kind =>
    let parsed ← Command.parse PageArguments.flags [] arguments
    if parsed.rest ≠ [] then throw .badArguments
    return .page kind (← PageArguments.ofValues parsed.values)
  | "health", none =>
    let parsed ← Command.parse [] [] arguments
    if parsed.rest ≠ [] then throw .badArguments
    return .health
  | "help", none =>
    throw (if arguments ∈ [[], ["health"], ["episodes"], ["profiles"], ["help"]] then .help
      else .badArguments)
  | _, none => throw .badArguments

def parse (arguments : List String) : Except Stop QueryArguments := do
  let parsed ← Command.parse [{ long := "url", short := some 'u' }] [] arguments
  match parsed.separated, parsed.rest with
  | false, name :: rest =>
    return ⟨(parsed.values.lookup "url").getD defaultBase, ← questionOf name rest⟩
  | _, _ => throw .badArguments

def withoutSlashes (base : String) : String :=
  String.ofList (base.toList.reverse.dropWhile (· = '/')).reverse

def url (a : QueryArguments) : Except Url.Error Url :=
  let base := withoutSlashes a.base
  match a.question with
  | .health => Url.parse (base ++ "/health")
  | .page kind arguments =>
    (Url.parse (base ++ arguments.path.getD ("/api/" ++ kind.name))).map fun url =>
      url.appendPairs arguments.pairs

end QueryArguments

end TierRelay.Command
