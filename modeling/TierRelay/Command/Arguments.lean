namespace TierRelay.Command

structure Flag where
  long : String
  short : Option Char := none
  accepts : String → Bool := fun _ => true

inductive Stop
  | help
  | badArguments
  deriving DecidableEq, Repr

abbrev Values := List (String × String)

inductive Word
  | long (name : List Char) (value : Option (List Char))
  | short (name : Char) (value : Option (List Char))
  | separator
  | plain (text : String)

def Word.ofString (s : String) : Word :=
  match s.toList with
  | ['-', '-'] => .separator
  | '-' :: '-' :: text =>
    match text.dropWhile (· ≠ '=') with
    | [] => .long text none
    | _ :: value => .long (text.takeWhile (· ≠ '=')) (some value)
  | '-' :: name :: [] => .short name none
  | '-' :: name :: '=' :: value => .short name (some value)
  | '-' :: name :: value => .short name (some value)
  | _ => .plain s

def flagOf? (flags : List Flag) : Word → Option (Flag × Option (List Char))
  | .long name value => (flags.find? fun f => f.long = String.ofList name).map (·, value)
  | .short name value => (flags.find? fun f => f.short = some name).map (·, value)
  | _ => none

def asksForHelp : Word → Bool
  | .long name value => name = "help".toList && value.isNone
  | .short name _ => name = 'h'
  | _ => false

def isValue (s : String) : Bool :=
  match Word.ofString s with
  | .plain _ => true
  | _ => false

def put (values : Values) (flag : Flag) (value : String) : Except Stop Values :=
  match values.any (·.1 = flag.long), flag.accepts value with
  | false, true => .ok (values ++ [(flag.long, value)])
  | _, _ => .error .badArguments

structure Parsed where
  values : Values := []
  rest : List String := []
  separated : Bool := false

def parse (flags : List Flag) (values : Values) : List String → Except Stop Parsed
  | [] => .ok { values }
  | s :: rest =>
    let word := Word.ofString s
    match word with
    | .plain _ => .ok { values, rest := s :: rest }
    | .separator => .ok { values, rest, separated := true }
    | word =>
      if asksForHelp word then .error .help
      else match flagOf? flags word, rest with
        | none, _ => .error .badArguments
        | some (flag, some value), rest => do
          parse flags (← put values flag (String.ofList value)) rest
        | some (_, none), [] => .error .badArguments
        | some (flag, none), value :: rest =>
          if isValue value then do parse flags (← put values flag value) rest
          else .error .badArguments

end TierRelay.Command
