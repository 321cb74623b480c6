import TierRelay.Calendar.Date

/-!
A leap second is written as second 59 with a billion nanoseconds or more, so that it comes after
second 59 and before the next minute.
-/

namespace TierRelay.Calendar

def IsTime (hour minute second nanos : Nat) : Prop :=
  hour < 24 ∧ minute < 60 ∧ second < 60 ∧ nanos < 2000000000 ∧ (1000000000 ≤ nanos → second = 59)

instance (hour minute second nanos : Nat) : Decidable (IsTime hour minute second nanos) :=
  inferInstanceAs (Decidable (_ ∧ _))

structure Time where
  hour : Nat
  minute : Nat
  second : Nat
  nanos : Nat
  isTime : IsTime hour minute second nanos
  deriving DecidableEq

namespace Time

def of? (hour minute second nanos : Nat) : Option Time :=
  if h : IsTime hour minute second nanos then some ⟨hour, minute, second, nanos, h⟩ else none

def midnight : Time := ⟨0, 0, 0, 0, by decide⟩

def ofWritten? (hour minute second nanos : Nat) : Option Time :=
  if second = 60 then of? hour minute 59 (nanos + 1000000000) else of? hour minute second nanos

def wholeSecond (t : Time) : Time :=
  ⟨t.hour, t.minute, t.second, 0, by have := t.isTime; unfold IsTime at *; omega⟩

end Time

structure DateTime where
  date : Date
  time : Time
  deriving DecidableEq

namespace DateTime

def wholeSecond (t : DateTime) : DateTime :=
  ⟨t.date, t.time.wholeSecond⟩

/-- A number that grows exactly with time, so that date-times compare by it. -/
def rank (t : DateTime) : Int :=
  (((((t.date.year * 13 + t.date.month) * 32 + t.date.day) * 24 + t.time.hour) * 60
    + t.time.minute) * 60 + t.time.second) * 2000000000 + t.time.nanos

instance : LE DateTime := ⟨fun a b => a.rank ≤ b.rank⟩

instance : LT DateTime := ⟨fun a b => a.rank < b.rank⟩

instance (a b : DateTime) : Decidable (a ≤ b) :=
  inferInstanceAs (Decidable (a.rank ≤ b.rank))

instance (a b : DateTime) : Decidable (a < b) :=
  inferInstanceAs (Decidable (a.rank < b.rank))

def minusMinutes? (t : DateTime) (minutes : Int) : Option DateTime := do
  let minuteOfDay : Int := t.time.hour * 60 + t.time.minute - minutes
  let date ←
    if minuteOfDay < 0 then t.date.previous?
    else if minuteOfDay < 1440 then some t.date
    else t.date.next?
  let rest := (minuteOfDay % 1440).toNat
  return ⟨date, ← Time.of? (rest / 60) (rest % 60) t.time.second t.time.nanos⟩

theorem rank_injective {a b : DateTime} (h : a.rank = b.rank) : a = b := by
  obtain ⟨⟨y, m, d, hd⟩, ⟨ho, mi, s, n, ht⟩⟩ := a
  obtain ⟨⟨y', m', d', hd'⟩, ⟨ho', mi', s', n', ht'⟩⟩ := b
  have hl := Date.monthLength_le y m
  have hl' := Date.monthLength_le y' m'
  simp only [rank] at h
  unfold IsDay at hd hd'
  unfold IsTime at ht ht'
  have hn : n = n' := by omega
  have hs : s = s' := by omega
  have hmi : mi = mi' := by omega
  have hho : ho = ho' := by omega
  have hdd : d = d' := by omega
  have hm : m = m' := by omega
  have hy : y = y' := by omega
  subst hn hs hmi hho hdd hm hy
  rfl

@[simp] theorem wholeSecond_wholeSecond (t : DateTime) :
    t.wholeSecond.wholeSecond = t.wholeSecond := rfl

end DateTime

end TierRelay.Calendar
