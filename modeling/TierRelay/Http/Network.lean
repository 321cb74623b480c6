import TierRelay.Http.Message

namespace TierRelay

open Http

structure Call where
  method : String
  target : Target
  headers : Headers

namespace Call

def sent (c : Call) : Target :=
  { path := c.target.path, query := c.target.query }

def request (c : Call) : Request :=
  { method := c.method, target := c.sent, headers := c.headers }

def isHttp (c : Call) : Bool :=
  c.target.isHttp

end Call

inductive Exchange
  /-- No complete head of a response arrived. -/
  | failed (detail : String)
  /-- A response, whose body may have broken off. -/
  | answered (response : Response) (complete : Bool)

abbrev Network := Call → Exchange

namespace Network

def unreachable : Network :=
  fun _ => .failed "client error (Connect)"

end Network

end TierRelay
