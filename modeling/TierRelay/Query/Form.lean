import TierRelay.Text.Percent
import TierRelay.Text.Split

namespace TierRelay.Query.Form

open TierRelay.Text

abbrev Pairs := List (String × String)

def keeps (c : Char) : Bool :=
  c.isAlphanum || c = '*' || c = '-' || c = '.' || c = '_'

def encode (s : String) : List Char :=
  s.toList.flatMap fun c => if c = ' ' then ['+'] else Percent.encode keeps [c]

def decode (s : Bytes) : String :=
  let spaced := s.map fun b => if b = 0x2B then 0x20 else b
  String.ofList (Utf8.decodeLossy (Percent.decode spaced))

def encodePair (pair : String × String) : List Char :=
  encode pair.1 ++ '=' :: encode pair.2

def decodePair (part : Bytes) : String × String :=
  (decode (before 0x3D part), decode ((after? 0x3D part).getD []))

def pairs (query : List Char) : Pairs :=
  ((parts 0x26 (Utf8.encode query)).filter (· ≠ [])).map decodePair

def append (query : List Char) (pairs : Pairs) : List Char :=
  pairs.foldl (fun text pair => (if text = [] then [] else text ++ ['&']) ++ encodePair pair) query

def last? (name : String) (pairs : Pairs) : Option String :=
  pairs.reverse.lookup name

end TierRelay.Query.Form
