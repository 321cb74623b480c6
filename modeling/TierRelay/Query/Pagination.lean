import TierRelay.Calendar.Wire
import TierRelay.Fault
import TierRelay.Query.Form

namespace TierRelay

open Text Calendar Query

structure Pagination where
  page : UInt32
  pageSize : UInt32
  startDate : DateTime
  endDate : DateTime
  deriving DecidableEq

namespace Pagination

inductive Rejection
  | page
  | dateRange
  deriving DecidableEq, Repr

def Rejection.message : Rejection → String
  | .page => "invalid page"
  | .dateRange => "invalid date range"

structure Parameters where
  page : Option String := none
  pageSize : Option String := none
  startDate : Option String := none
  endDate : Option String := none
  deriving DecidableEq

namespace Parameters

def ofPairs (pairs : Form.Pairs) : Parameters :=
  ⟨Form.last? "page" pairs, Form.last? "pageSize" pairs, Form.last? "startDate" pairs,
    Form.last? "endDate" pairs⟩

def ofQuery (query : String) : Parameters :=
  ofPairs (Form.pairs query.toList)

end Parameters

def smallestPageSize : Int := 1

def largestPageSize : Int := 5000

def defaultPageSize : UInt32 := 1000

def word? (raw : String) : Option Int :=
  integerWithin? 32 (trim raw.toList)

def page? (raw : Option String) : Option UInt32 :=
  (raw.bind word?).map fun n => UInt32.ofNat (max n 1).toNat

def pageSizeOf (raw : Option String) : UInt32 :=
  match raw.bind word? with
  | none => defaultPageSize
  | some n => UInt32.ofNat (max smallestPageSize (min n largestPageSize)).toNat

def parse (p : Parameters) : Except Rejection Pagination :=
  match page? p.page, p.startDate.bind DateTime.parse?, p.endDate.bind DateTime.parse? with
  | none, _, _ => .error .page
  | some page, some startDate, some endDate =>
    .ok ⟨page, pageSizeOf p.pageSize, startDate, endDate⟩
  | some _, _, _ => .error .dateRange

def ofQuery (query : String) : Except Rejection Pagination :=
  parse (Parameters.ofQuery query)

def rowsToSkip (q : Pagination) : Except Fault UInt64 :=
  if q.page = 0 then .error .overflow
  else .ok ((q.page.toUInt64 - 1) * q.pageSize.toUInt64)

def pairs (q : Pagination) : Form.Pairs :=
  [("page", String.ofList (decimal q.page.toNat)),
    ("pageSize", String.ofList (decimal q.pageSize.toNat)),
    ("startDate", q.startDate.canonical), ("endDate", q.endDate.canonical)]

end Pagination

end TierRelay
