import Mathlib
import TierRelay.Calendar.DateTime

namespace TierRelay.Calendar

def daysBeforeYear (year : Int) : Int :=
  365 * (year - 1) + (year - 1) / 4 - (year - 1) / 100 + (year - 1) / 400

def daysBeforeMonth (year : Int) (month : Nat) : Int :=
  ∑ m ∈ Finset.Ico 1 month, (monthLength year m : Int)

@[simp] lemma daysBeforeMonth_one (year : Int) : daysBeforeMonth year 1 = 0 := by
  simp [daysBeforeMonth]

lemma daysBeforeMonth_succ (year : Int) {month : Nat} (h : 1 ≤ month) :
    daysBeforeMonth year (month + 1) = daysBeforeMonth year month + monthLength year month :=
  Finset.sum_Ico_succ_top h _

lemma daysBeforeMonth_mono (year : Int) {month month' : Nat} (h : month ≤ month') :
    daysBeforeMonth year month ≤ daysBeforeMonth year month' := by
  apply Finset.sum_le_sum_of_subset_of_nonneg (Finset.Ico_subset_Ico_right h)
  intro m _ _
  exact Int.natCast_nonneg _

lemma daysBeforeYear_succ (year : Int) :
    daysBeforeYear (year + 1) = daysBeforeYear year + daysBeforeMonth year 13 := by
  have hmonths : daysBeforeMonth year 13 = if isLeapYear year then 366 else 365 := by
    simp only [daysBeforeMonth, monthLength]
    cases isLeapYear year <;> rfl
  rw [hmonths, daysBeforeYear, daysBeforeYear, isLeapYear]
  simp only [Bool.and_eq_true, Bool.or_eq_true, decide_eq_true_eq]
  split <;> omega

lemma daysBeforeYear_mono {year year' : Int} (h : year ≤ year') :
    daysBeforeYear year ≤ daysBeforeYear year' := by
  simp only [daysBeforeYear]
  omega

namespace Date

/-- The first of January of the year 1 is day 1. -/
def dayNumber (d : Date) : Int :=
  daysBeforeYear d.year + daysBeforeMonth d.year d.month + d.day

variable {d e : Date}

lemma one_le_day (d : Date) : 1 ≤ d.day := d.isDay.2.2.2.2.1

lemma dayNumber_le (d : Date) :
    d.dayNumber ≤ daysBeforeYear d.year + daysBeforeMonth d.year (d.month + 1) := by
  obtain ⟨_, _, hmonth, _, _, hday⟩ := d.isDay
  rw [daysBeforeMonth_succ _ hmonth, dayNumber]
  omega

lemma lt_dayNumber (d : Date) :
    daysBeforeYear d.year + daysBeforeMonth d.year d.month < d.dayNumber := by
  have := d.one_le_day
  rw [dayNumber]
  omega

lemma dayNumber_lt_of_year_lt (h : d.year < e.year) : d.dayNumber < e.dayNumber := by
  obtain ⟨_, _, hmonth, hmonth', _, _⟩ := d.isDay
  calc d.dayNumber ≤ daysBeforeYear d.year + daysBeforeMonth d.year (d.month + 1) := d.dayNumber_le
    _ ≤ daysBeforeYear d.year + daysBeforeMonth d.year 13 :=
      Int.add_le_add_left (daysBeforeMonth_mono _ (by omega)) _
    _ = daysBeforeYear (d.year + 1) := (daysBeforeYear_succ d.year).symm
    _ ≤ daysBeforeYear e.year := daysBeforeYear_mono (by omega)
    _ ≤ daysBeforeYear e.year + daysBeforeMonth e.year e.month := by
      have := daysBeforeMonth_mono e.year e.isDay.2.2.1
      rw [daysBeforeMonth_one] at this
      omega
    _ < e.dayNumber := e.lt_dayNumber

lemma dayNumber_lt_of_month_lt (hyear : d.year = e.year) (h : d.month < e.month) :
    d.dayNumber < e.dayNumber := by
  calc d.dayNumber ≤ daysBeforeYear d.year + daysBeforeMonth d.year (d.month + 1) := d.dayNumber_le
    _ ≤ daysBeforeYear e.year + daysBeforeMonth e.year e.month := by
      rw [hyear]
      exact Int.add_le_add_left (daysBeforeMonth_mono _ h) _
    _ < e.dayNumber := e.lt_dayNumber

lemma one_le_monthLength (year : Int) (month : Nat) : 1 ≤ monthLength year month := by
  rw [monthLength]
  split
  · split
    · decide
    · decide
  · split
    · decide
    · decide

lemma exists_of? {year : Int} {month day : Nat} (h : IsDay year month day) :
    ∃ e, of? year month day = some e ∧ e.year = year ∧
      e.dayNumber = daysBeforeYear year + daysBeforeMonth year month + day :=
  ⟨⟨year, month, day, h⟩, dif_pos h, rfl, rfl⟩

lemma exists_next? (d : Date) (h : d.year < lastYear ∨ d.month < 12 ∨ d.day < 31) :
    ∃ e, d.next? = some e ∧ e.dayNumber = d.dayNumber + 1 ∧ d.year ≤ e.year ∧
      e.year ≤ d.year + 1 := by
  obtain ⟨hfirst, hlast, hmonth, hmonth', hday, hday'⟩ := d.isDay
  rw [next?]
  split
  · next hinside =>
    obtain ⟨e, he, hyear, hnumber⟩ := exists_of? (⟨hfirst, hlast, hmonth, hmonth', by omega,
      hinside⟩ : IsDay d.year d.month (d.day + 1))
    refine ⟨e, he, ?_, by omega, by omega⟩
    rw [hnumber, dayNumber]
    omega
  · next hend =>
    split
    · next hinside =>
      obtain ⟨e, he, hyear, hnumber⟩ := exists_of? (⟨hfirst, hlast, by omega, hinside, le_rfl,
        one_le_monthLength _ _⟩ : IsDay d.year (d.month + 1) 1)
      refine ⟨e, he, ?_, by omega, by omega⟩
      rw [hnumber, dayNumber, daysBeforeMonth_succ _ hmonth]
      omega
    · have htwelve : d.month = 12 := by omega
      have hlength : monthLength d.year 12 = 31 := rfl
      rw [htwelve, hlength] at hend hday'
      obtain ⟨e, he, hyear, hnumber⟩ := exists_of? (⟨by omega, by omega, le_rfl, by omega, le_rfl,
        one_le_monthLength _ _⟩ : IsDay (d.year + 1) 1 1)
      refine ⟨e, he, ?_, by omega, by omega⟩
      rw [hnumber, dayNumber, htwelve, daysBeforeYear_succ, daysBeforeMonth_one,
        daysBeforeMonth_succ _ (by decide), hlength]
      omega

lemma exists_previous? (d : Date) (h : firstYear < d.year) :
    ∃ e, d.previous? = some e ∧ e.dayNumber = d.dayNumber - 1 ∧ d.year - 1 ≤ e.year ∧
      e.year ≤ d.year := by
  obtain ⟨hfirst, hlast, hmonth, hmonth', hday, hday'⟩ := d.isDay
  rw [previous?]
  split
  · next hinside =>
    obtain ⟨e, he, hyear, hnumber⟩ := exists_of? (⟨hfirst, hlast, hmonth, hmonth', by omega,
      by omega⟩ : IsDay d.year d.month (d.day - 1))
    refine ⟨e, he, ?_, by omega, by omega⟩
    rw [hnumber, dayNumber]
    omega
  · split
    · next hinside =>
      obtain ⟨e, he, hyear, hnumber⟩ := exists_of? (⟨hfirst, hlast, by omega, by omega,
        one_le_monthLength _ _, le_rfl⟩ :
          IsDay d.year (d.month - 1) (monthLength d.year (d.month - 1)))
      have hsucc := daysBeforeMonth_succ d.year (show 1 ≤ d.month - 1 by omega)
      rw [Nat.sub_add_cancel hmonth] at hsucc
      refine ⟨e, he, ?_, by omega, by omega⟩
      rw [hnumber, dayNumber, hsucc]
      omega
    · have hone : d.month = 1 := by omega
      have hlength : monthLength (d.year - 1) 12 = 31 := rfl
      obtain ⟨e, he, hyear, hnumber⟩ := exists_of? (⟨by omega, by omega, by omega, le_rfl, by omega,
        le_rfl⟩ : IsDay (d.year - 1) 12 31)
      have hsucc := daysBeforeYear_succ (d.year - 1)
      rw [Int.sub_add_cancel, daysBeforeMonth_succ _ (by decide), hlength] at hsucc
      refine ⟨e, he, ?_, by omega, by omega⟩
      rw [hnumber, dayNumber, hone, daysBeforeMonth_one, hsucc]
      omega

end Date

namespace Time

def secondOfDay (t : Time) : Nat :=
  t.hour * 3600 + t.minute * 60 + t.second

lemma secondOfDay_lt (t : Time) : t.secondOfDay < 86400 := by
  obtain ⟨hhour, hminute, hsecond, _⟩ := t.isTime
  rw [secondOfDay]
  omega

lemma exists_of?_minute (t : Time) {minute : Nat} (h : minute < 1440) :
    ∃ u, of? (minute / 60) (minute % 60) t.second t.nanos = some u ∧
      u.secondOfDay = minute * 60 + t.second := by
  obtain ⟨_, _, hsecond, hnanos, hleap⟩ := t.isTime
  have ht : IsTime (minute / 60) (minute % 60) t.second t.nanos :=
    ⟨by omega, by omega, hsecond, hnanos, hleap⟩
  refine ⟨⟨minute / 60, minute % 60, t.second, t.nanos, ht⟩, dif_pos ht, ?_⟩
  dsimp only [secondOfDay]
  omega

end Time

namespace DateTime

/-- Whole seconds since the midnight with which day 0 begins. -/
def instant (t : DateTime) : Int :=
  86400 * t.date.dayNumber + t.time.secondOfDay

@[simp] lemma instant_wholeSecond (t : DateTime) : t.wholeSecond.instant = t.instant :=
  rfl

variable {a b : DateTime}

lemma instant_lt_of_lt (ha : a.time.nanos = 0) (hb : b.time.nanos = 0) (h : a < b) :
    a.instant < b.instant := by
  have hcases : a.date.year < b.date.year ∨
      (a.date.year = b.date.year ∧ a.date.month < b.date.month) ∨
      (a.date.year = b.date.year ∧ a.date.month = b.date.month ∧ a.date.day < b.date.day) ∨
      (a.date.year = b.date.year ∧ a.date.month = b.date.month ∧ a.date.day = b.date.day) ∧
        a.time.secondOfDay < b.time.secondOfDay := by
    have hrank : a.rank < b.rank := h
    obtain ⟨hhour, hminute, hsecond, _⟩ := a.time.isTime
    obtain ⟨hhour', hminute', hsecond', _⟩ := b.time.isTime
    obtain ⟨_, _, hmonth, hmonth', hday, hday'⟩ := a.date.isDay
    obtain ⟨_, _, hmonth₁, hmonth₁', hday₁, hday₁'⟩ := b.date.isDay
    have hlength := Date.monthLength_le a.date.year a.date.month
    have hlength' := Date.monthLength_le b.date.year b.date.month
    simp only [rank, ha, hb] at hrank
    simp only [Time.secondOfDay]
    omega
  have hsecond := a.time.secondOfDay_lt
  have hsecond' := b.time.secondOfDay_lt
  rw [instant, instant]
  rcases hcases with
    hyear | ⟨hyear, hmonth⟩ | ⟨hyear, hmonth, hday⟩ | ⟨⟨hyear, hmonth, hday⟩, htime⟩
  · have := Date.dayNumber_lt_of_year_lt hyear
    omega
  · have := Date.dayNumber_lt_of_month_lt hyear hmonth
    omega
  · have : a.date.dayNumber < b.date.dayNumber := by
      rw [Date.dayNumber, Date.dayNumber, hyear, hmonth]
      omega
    omega
  · rw [Date.dayNumber, Date.dayNumber, hyear, hmonth, hday]
    omega

lemma lt_iff_instant_lt (ha : a.time.nanos = 0) (hb : b.time.nanos = 0) :
    a < b ↔ a.instant < b.instant := by
  refine ⟨instant_lt_of_lt ha hb, fun h => ?_⟩
  rcases Int.lt_trichotomy a.rank b.rank with hlt | heq | hgt
  · exact hlt
  · rw [rank_injective heq] at h
    exact absurd h (Int.lt_irrefl _)
  · exact absurd (instant_lt_of_lt hb ha hgt) (Int.lt_asymm h)

lemma le_iff_instant_le (ha : a.time.nanos = 0) (hb : b.time.nanos = 0) :
    a ≤ b ↔ a.instant ≤ b.instant := by
  have hle : a ≤ b ↔ ¬ b < a := Int.not_lt.symm
  rw [hle, lt_iff_instant_lt hb ha, Int.not_lt]

lemma eq_of_instant_eq (ha : a.time.nanos = 0) (hb : b.time.nanos = 0)
    (h : a.instant = b.instant) : a = b := by
  have hab := (le_iff_instant_le ha hb).mpr h.le
  have hba := (le_iff_instant_le hb ha).mpr h.ge
  exact rank_injective (Int.le_antisymm hab hba)

lemma exists_minusMinutes? (t : DateTime) {minutes : Int} (hlow : -1440 < minutes)
    (hhigh : minutes < 1440) (hfirst : firstYear < t.date.year) (hlast : t.date.year < lastYear) :
    ∃ u, t.minusMinutes? minutes = some u ∧ u.instant = t.instant - 60 * minutes ∧
      t.date.year - 1 ≤ u.date.year ∧ u.date.year ≤ t.date.year + 1 := by
  obtain ⟨hhour, hminute, _⟩ := t.time.isTime
  obtain ⟨minuteOfDay, hminuteOfDay⟩ :
      ∃ m : Int, m = t.time.hour * 60 + t.time.minute - minutes := ⟨_, rfl⟩
  obtain ⟨date, hdate, hnumber, hyear, hyear'⟩ : ∃ date,
      (if minuteOfDay < 0 then t.date.previous?
        else if minuteOfDay < 1440 then some t.date else t.date.next?) = some date ∧
      date.dayNumber = t.date.dayNumber + minuteOfDay / 1440 ∧
      t.date.year - 1 ≤ date.year ∧ date.year ≤ t.date.year + 1 := by
    split
    · obtain ⟨date, hdate, hnumber, hyear, hyear'⟩ := t.date.exists_previous? hfirst
      exact ⟨date, hdate, by omega, by omega, by omega⟩
    · split
      · exact ⟨t.date, rfl, by omega, by omega, by omega⟩
      · obtain ⟨date, hdate, hnumber, hyear, hyear'⟩ := t.date.exists_next? (.inl hlast)
        exact ⟨date, hdate, by omega, by omega, by omega⟩
  have hrest : (minuteOfDay % 1440).toNat < 1440 := by omega
  obtain ⟨time, htime, hsecond⟩ := t.time.exists_of?_minute hrest
  refine ⟨⟨date, time⟩, ?_, ?_, hyear, hyear'⟩
  · simp only [minusMinutes?, ← hminuteOfDay, htime]
    split_ifs at hdate ⊢ <;> rw [hdate] <;> rfl
  · have htoday : t.time.secondOfDay =
        t.time.hour * 3600 + t.time.minute * 60 + t.time.second := rfl
    simp only [instant, hnumber, hsecond, htoday]
    omega

end DateTime

end TierRelay.Calendar
