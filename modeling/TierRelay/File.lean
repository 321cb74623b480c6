import TierRelay.Text.Utf8

namespace TierRelay

inductive File
  | content (bytes : Bytes)
  | missing
  | directory

namespace File

inductive Error
  | missing
  | directory
  | notUtf8
  deriving DecidableEq, Repr

def Error.message : Error → String
  | .missing => "No such file or directory (os error 2)"
  | .directory => "Is a directory (os error 21)"
  | .notUtf8 => "stream did not contain valid UTF-8"

def text : File → Except Error String
  | content bytes =>
    match Text.Utf8.decode? bytes with
    | some s => .ok (String.ofList s)
    | none => .error .notUtf8
  | missing => .error .missing
  | directory => .error .directory

end File

end TierRelay
