import TierRelay.Http.Header
import TierRelay.Http.Status
import TierRelay.Http.Target

namespace TierRelay.Http

structure Request where
  method : String := "GET"
  target : Target
  headers : Headers := []

namespace Request

def query (r : Request) : String :=
  String.ofList (r.target.query.getD [])

end Request

structure Response where
  status : Nat
  headers : Headers := []
  body : Bytes := []
  deriving DecidableEq

namespace Response

def ofStatus (status : Nat) : Response :=
  { status }

def json (status : Nat) (body : Bytes) : Response :=
  ⟨status, [("content-type", Header.ofText "application/json")], body⟩

def plain (status : Nat) (text : String) : Response :=
  ⟨status, [("content-type", Header.ofText "text/plain; charset=utf-8")], Header.ofText text⟩

def internalError : Response :=
  ofStatus 500

def withHeader (r : Response) (name : String) (value : Bytes) : Response :=
  { r with headers := r.headers ++ [(name, value)] }

def withLength (r : Response) : Response :=
  r.withHeader "content-length" (Header.ofText (String.ofList (Text.decimal r.body.length)))

def withoutBody (r : Response) : Response :=
  { r with body := [] }

end Response

end TierRelay.Http
