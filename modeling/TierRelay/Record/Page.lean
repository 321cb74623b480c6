import TierRelay.Json.Printer
import TierRelay.Record.Store

namespace TierRelay

structure RecordPage where
  kind : RecordKind
  items : List Json
  page : UInt32
  pageSize : UInt32
  skip : UInt64
  total : Nat

namespace RecordPage

def ofSlice (kind : RecordKind) (q : Pagination) (skip : UInt64) (s : Store.Slice) : RecordPage :=
  ⟨kind, s.items, q.page, q.pageSize, skip, s.total⟩

def isEmpty (p : RecordPage) : Bool :=
  p.items.isEmpty

def totalPages (p : RecordPage) : Except Fault Nat :=
  if p.pageSize = 0 then .error .divisionByZero
  else .ok ((p.total + (p.pageSize.toNat - 1)) / p.pageSize.toNat)

def hasMoreData (p : RecordPage) : Except Fault Bool :=
  let next := p.skip.toNat + p.pageSize.toNat
  if UInt64.size ≤ next then .error .overflow else .ok (next < p.total)

def json (p : RecordPage) : Except Fault Json := do
  let totalPages ← p.totalPages
  let hasMoreData ← p.hasMoreData
  return .ofMembers [("page", .ofNat p.page.toNat), ("pageSize", .ofNat p.pageSize.toNat),
    ("totalResults", .ofNat p.total), ("totalPages", .ofNat totalPages),
    ("hasMoreData", .bool hasMoreData), (p.kind.name, .array p.items)]

def body (p : RecordPage) : Except Fault (Except Json.WriteError String) :=
  p.json.map Json.write

end RecordPage

end TierRelay
