import TierRelay.Query.Pagination
import TierRelay.Record.Kind

/-!
Each kind is kept in the order of insertion times, and records with equal times in the order of
their arrival. A record without a readable time is kept but is in no range.
-/

namespace TierRelay

open Calendar

structure Stored where
  insertedAt : Option DateTime
  payload : Json

namespace Stored

def timeOf (record : Json) : Option DateTime :=
  match record.member? "recordInsertDatetime" with
  | some (.string text) => DateTime.parse? text
  | _ => none

def ofRecord (record : Json) : Stored :=
  ⟨timeOf record, record⟩

def notAfter (a b : Stored) : Bool :=
  match a.insertedAt, b.insertedAt with
  | none, _ => true
  | some _, none => false
  | some s, some t => s ≤ t

def isWithin (first last : DateTime) (r : Stored) : Bool :=
  match r.insertedAt with
  | none => false
  | some t => first ≤ t && t ≤ last

end Stored

abbrev Store := PerKind (List Stored)

namespace Store

def empty : Store := ⟨[], []⟩

def extend (s : Store) (kind : RecordKind) (records : List Json) : Store :=
  s.set kind ((s.get kind ++ records.map Stored.ofRecord).mergeSort Stored.notAfter)

def insert (s : Store) (kind : RecordKind) (record : Json) : Store :=
  s.extend kind [record]

def length (s : Store) (kind : RecordKind) : Nat :=
  (s.get kind).length

def within (s : Store) (kind : RecordKind) (first last : DateTime) : List Stored :=
  (s.get kind).filter (Stored.isWithin first last)

structure Slice where
  items : List Json
  total : Nat

def fetch (s : Store) (kind : RecordKind) (q : Pagination) (skip : UInt64) : Slice :=
  let matching := s.within kind q.startDate q.endDate
  ⟨((matching.drop skip.toNat).take q.pageSize.toNat).map Stored.payload, matching.length⟩

end Store

end TierRelay
