import TierRelay.File
import TierRelay.Settings.Document
import TierRelay.Settings.Issue
import TierRelay.Toml.Document

namespace TierRelay.Settings

inductive LoadError
  | unreadable (cause : File.Error)
  | malformed
  | invalid (issues : List Issue)
  deriving DecidableEq

def LoadError.message : LoadError → String
  | .unreadable cause => "IO error: " ++ cause.message
  | .malformed => "Parse error"
  | .invalid issues => "Validation failed: " ++ String.intercalate ", " (issues.map Issue.text)

def validate (s : Settings) : Except LoadError Settings :=
  match s.issues with
  | [] => .ok s
  | issues => .error (.invalid issues)

def ofText? (text : String) : Option Settings :=
  (Toml.parse? text).bind (ofDocument? .tables)

def parse (text : String) : Except LoadError Settings :=
  match ofText? text with
  | none => .error .malformed
  | some s => s.validate

def load (file : File) : Except LoadError Settings :=
  match file.text with
  | .error cause => .error (.unreadable cause)
  | .ok text => parse text

end TierRelay.Settings
