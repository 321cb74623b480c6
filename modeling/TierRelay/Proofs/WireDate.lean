import TierRelay.Proofs.WrittenFields

/-!
The pattern that tiers write comes first among those they read, so it is enough that this one
pattern takes back what was written.
-/

namespace TierRelay.Calendar

open TierRelay.Text

lemma isYear_yearText (year : Int) : IsYear (DateTime.yearText year) year := by
  rw [DateTime.yearText]
  split
  · next hplain => exact isYear_padded hplain.1 hplain.2
  · have hne := padded_ne_nil 4 year.natAbs
    have hd : ∀ c ∈ padded 4 year.natAbs, c.isDigit = true := fun _ => isDigit_of_mem_padded
    constructor
    · split
      · have h := IsNumeral.minus hne hd
        rwa [decimalValue_padded, show -(year.natAbs : Int) = year by omega] at h
      · have h := IsNumeral.plus hne hd
        rwa [decimalValue_padded, show (year.natAbs : Int) = year by omega] at h
    · intro hall
      have := hall _ List.mem_cons_self
      split at this <;> exact absurd this (by decide)

namespace DateTime

/-- The second as it is written; a leap second is number 60. -/
def writtenSecond (t : Time) : Nat :=
  if 1000000000 ≤ t.nanos then t.second + 1 else t.second

lemma ofWritten?_writtenSecond (t : Time) :
    ∃ u, Time.ofWritten? t.hour t.minute (writtenSecond t) 0 = some u ∧
      u.wholeSecond = t.wholeSecond := by
  obtain ⟨hour, minute, second, nanos, ht⟩ := t
  have ⟨hh, hm, hs, _, hleap⟩ := ht
  by_cases hn : 1000000000 ≤ nanos
  · obtain rfl := hleap hn
    refine ⟨⟨hour, minute, 59, 1000000000, by unfold IsTime; omega⟩, ?_, rfl⟩
    simp only [writtenSecond, if_pos hn, Time.ofWritten?, if_true]
    exact dif_pos _
  · refine ⟨⟨hour, minute, second, 0, by unfold IsTime; omega⟩, ?_, rfl⟩
    simp only [writtenSecond, if_neg hn, Time.ofWritten?, if_neg (show ¬ second = 60 by omega)]
    exact dif_pos _

lemma canonicalText_eq (t : DateTime) : t.canonicalText = dayFirstText (padded 2 t.date.day)
    (padded 2 t.date.month) (yearText t.date.year) (padded 2 t.time.hour) (padded 2 t.time.minute)
    (padded 2 (writtenSecond t.time)) :=
  rfl

lemma isShort_writtenSecond (t : Time) : IsShort (padded 2 (writtenSecond t)) (writtenSecond t) := by
  have ⟨_, _, hsecond, _⟩ := t.isTime
  apply isShort_padded
  rw [writtenSecond]
  split <;> omega

lemma read?_canonicalText (t : DateTime) :
    canonicalPattern.read? t.canonicalText {} =
      some ⟨t.date.year, t.date.month, t.date.day, t.time.hour, t.time.minute,
        writtenSecond t.time, 0⟩ := by
  rw [canonicalText_eq]
  exact read?_dayFirstText (isShort_padded t.date.day_lt) (isShort_padded t.date.month_lt)
    (isYear_yearText _) (isShort_padded t.time.hour_lt) (isShort_padded t.time.minute_lt)
    (isShort_writtenSecond _)

lemma trim_canonicalText (t : DateTime) : trim t.canonicalText = t.canonicalText := by
  rw [canonicalText_eq]
  exact (isTrimmed_dayFirstText (isShort_padded t.date.day_lt) (isShort_writtenSecond _)).trim

lemma recognise_canonicalText (t : DateTime) :
    ∃ u, canonicalPattern.recognise t.canonicalText = some u ∧ u.wholeSecond = t.wholeSecond := by
  obtain ⟨u, hu, hw⟩ := ofWritten?_writtenSecond t.time
  refine ⟨⟨t.date, u⟩, ?_, ?_⟩
  · rw [Pattern.recognise, read?_canonicalText, Option.bind_some]
    simp only [Reading.toDateTime?, Date.of?_self, hu]
    rfl
  · rw [wholeSecond, hw]
    rfl

lemma parse?_canonical (t : DateTime) : parse? t.canonical = some t.wholeSecond := by
  obtain ⟨u, hu, hw⟩ := recognise_canonicalText t
  have hr : recognisers = canonicalPattern.recognise :: recognisers.tail := rfl
  rw [parse?, canonical, String.toList_ofList, trim_canonicalText, hr, List.findSome?_cons, hu]
  exact congrArg some hw

lemma wholeSecond_of_parse? {s : String} {t : DateTime} (h : parse? s = some t) :
    t.wholeSecond = t := by
  obtain ⟨u, _, rfl⟩ := Option.map_eq_some_iff.mp h
  exact wholeSecond_wholeSecond u

end DateTime

end TierRelay.Calendar
