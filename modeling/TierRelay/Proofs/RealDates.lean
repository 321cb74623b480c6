import TierRelay.Proofs.FormatOrder

namespace TierRelay.Calendar

open TierRelay.Text

lemma Date.isSome_of?_iff {year : Int} {month day : Nat} :
    (Date.of? year month day).isSome ↔ IsDay year month day := by
  rw [Date.of?]
  split
  · next h => exact iff_of_true rfl h
  · next h => exact iff_of_false Bool.false_ne_true h

lemma Time.isSome_of?_iff {hour minute second nanos : Nat} :
    (Time.of? hour minute second nanos).isSome ↔ IsTime hour minute second nanos := by
  rw [Time.of?]
  split
  · next h => exact iff_of_true rfl h
  · next h => exact iff_of_false Bool.false_ne_true h

lemma Time.isSome_ofWritten?_iff {hour minute second : Nat} :
    (Time.ofWritten? hour minute second 0).isSome ↔ hour < 24 ∧ minute < 60 ∧ second ≤ 60 := by
  rw [Time.ofWritten?]
  split
  all_goals
    rw [Time.isSome_of?_iff, IsTime]
    omega

lemma Reading.isSome_toDateTime?_iff {r : Reading} (hn : r.nanos = 0) :
    r.toDateTime?.isSome ↔
      IsDay r.year r.month r.day ∧ r.hour < 24 ∧ r.minute < 60 ∧ r.second ≤ 60 := by
  rw [← Date.isSome_of?_iff, ← Time.isSome_ofWritten?_iff, Reading.toDateTime?, hn]
  cases Date.of? r.year r.month r.day with
  | none => simp
  | some date => cases Time.ofWritten? r.hour r.minute r.second 0 <;> simp

variable {d m y h mi s : List Char} {day month hour minute second : Nat} {year : Int}

lemma eq_none_of_marks {text : List Char} (h : marks text = canonicalPattern.marks)
    {recognise : List Char → Option DateTime} (hmem : recognise ∈ recognisers.tail) :
    recognise text = none := by
  have hmarks : ∀ p ∈ patterns.tail, canonicalPattern.marks ≠ p.marks := by decide
  have hcases : (∃ p ∈ patterns.tail, p.recognise = recognise) ∨
      recognise = Rfc3339.recognise := by
    have htail : recognisers.tail = (dateTimePatterns.tail.map Pattern.recognise ++
      [Rfc3339.recognise]) ++ datePatterns.map Pattern.recognise := rfl
    have hpatterns : patterns.tail = dateTimePatterns.tail ++ datePatterns := rfl
    simp only [htail, hpatterns, List.mem_append, List.mem_map, List.mem_singleton] at hmem ⊢
    grind
  rw [Option.eq_none_iff_forall_ne_some]
  intro t ht
  rcases hcases with ⟨p, hp, rfl⟩ | rfl
  · exact hmarks p hp (h.symm.trans (p.marks_of_recognise ht))
  · obtain ⟨zoned, hzoned, hsuffix⟩ := Rfc3339.marks_of_recognise ht
    rw [h] at hsuffix
    exact not_zoned_suffix_marks canonicalPattern (by decide) zoned hzoned hsuffix

namespace DateTime

theorem day_first_accepts_real_dates (hd : IsShort d day) (hm : IsShort m month)
    (hy : IsYear y year) (hh : IsShort h hour) (hmi : IsShort mi minute) (hs : IsShort s second) :
    let text := String.ofList (dayFirstText d m y h mi s)
    ((parse? text).isSome ↔ 1 ≤ month ∧ month ≤ 12 ∧ 1 ≤ day ∧ day ≤ monthLength year month ∧
      -262143 ≤ year ∧ year ≤ 262142 ∧ hour < 24 ∧ minute < 60 ∧ second ≤ 60) ∧
    (∀ t, parse? text = some t → t.date.year = year ∧ t.date.month = month ∧ t.date.day = day ∧
      t.time.hour = hour ∧ t.time.minute = minute ∧ t.time.second = min second 59 ∧
      t.time.nanos = 0) ∧
    ∀ recognise ∈ recognisers.tail, recognise (trim text.toList) = none := by
  intro text
  have hread := read?_dayFirstText hd hm hy hh hmi hs
  have htrim : trim text.toList = dayFirstText d m y h mi s := by
    have htrimmed : IsTrimmed (dayFirstText d m y h mi s) := isTrimmed_dayFirstText hd hs
    rw [String.toList_ofList, htrimmed.trim]
  have hothers : ∀ recognise ∈ recognisers.tail, recognise (trim text.toList) = none := by
    intro recognise hmem
    rw [htrim]
    exact eq_none_of_marks (canonicalPattern.marks_of_read? hread) hmem
  have hparse : parse? text =
      (Reading.toDateTime? ⟨year, month, day, hour, minute, second, 0⟩).map wholeSecond := by
    have hfirst : canonicalPattern.recognise (trim text.toList) =
        Reading.toDateTime? ⟨year, month, day, hour, minute, second, 0⟩ := by
      rw [htrim, Pattern.recognise, hread, Option.bind_some]
    have hr : recognisers = canonicalPattern.recognise :: recognisers.tail := rfl
    rw [parse?, hr, List.findSome?_cons, hfirst]
    cases Reading.toDateTime? ⟨year, month, day, hour, minute, second, 0⟩ with
    | some t => rfl
    | none => rw [List.findSome?_eq_none_iff.mpr hothers]
  have haccepts : (parse? text).isSome ↔
      IsDay year month day ∧ hour < 24 ∧ minute < 60 ∧ second ≤ 60 := by
    rw [hparse, Option.isSome_map, Reading.isSome_toDateTime?_iff rfl]
  refine ⟨?_, ?_, hothers⟩
  · rw [haccepts]
    constructor
    · rintro ⟨⟨hlow, hhigh, hmonth, hmonth', hday, hday'⟩, hhour, hminute, hsecond⟩
      exact ⟨hmonth, hmonth', hday, hday', hlow, hhigh, hhour, hminute, hsecond⟩
    · rintro ⟨hmonth, hmonth', hday, hday', hlow, hhigh, hhour, hminute, hsecond⟩
      exact ⟨⟨hlow, hhigh, hmonth, hmonth', hday, hday'⟩, hhour, hminute, hsecond⟩
  · intro t ht
    obtain ⟨_, _, _, hsecond⟩ := haccepts.mp (Option.isSome_of_eq_some ht)
    rw [hparse] at ht
    obtain ⟨u, hu, rfl⟩ := Option.map_eq_some_iff.mp ht
    obtain ⟨hyear, hmonth, hday, hhour, hminute, hwritten⟩ := Reading.fields_of_toDateTime? hu
    refine ⟨hyear, hmonth, hday, hhour, hminute, ?_, rfl⟩
    refine hwritten.trans ?_
    dsimp only
    split <;> omega

theorem day_first_accepts_real_dates_leap :
    let text (year : List Char) :=
      String.ofList (dayFirstText ['2', '9'] ['2'] year ['5'] ['0', '7'] ['6', '0'])
    text ['-', '0', '0', '0', '4'] = "29/2/-0004 5:07:60" ∧ text ['1', '9', '0', '0'] =
      "29/2/1900 5:07:60" ∧ parse? "29/2/1900 5:07:60" = none ∧
    ∃ t, parse? "29/2/-0004 5:07:60" = some t ∧ t.date.year = -4 ∧ t.date.month = 2 ∧
      t.date.day = 29 ∧ t.time.hour = 5 ∧ t.time.minute = 7 ∧ t.time.second = 59 ∧
      t.time.nanos = 0 := by
  intro text
  have hd : IsShort ['2', '9'] 29 := ⟨by decide, by decide, List.all_eq_true.mp rfl, rfl⟩
  have hm : IsShort ['2'] 2 := ⟨by decide, by decide, List.all_eq_true.mp rfl, rfl⟩
  have hh : IsShort ['5'] 5 := ⟨by decide, by decide, List.all_eq_true.mp rfl, rfl⟩
  have hmi : IsShort ['0', '7'] 7 := ⟨by decide, by decide, List.all_eq_true.mp rfl, rfl⟩
  have hs : IsShort ['6', '0'] 60 := ⟨by decide, by decide, List.all_eq_true.mp rfl, rfl⟩
  have hleap : IsYear ['-', '0', '0', '0', '4'] (-4) :=
    ⟨@IsNumeral.minus ['0', '0', '0', '4'] (by decide) (List.all_eq_true.mp rfl),
      fun h => absurd (h '-' List.mem_cons_self) (by decide)⟩
  have hcommon : IsYear ['1', '9', '0', '0'] 1900 :=
    ⟨@IsNumeral.plain ['1', '9', '0', '0'] (by decide) (List.all_eq_true.mp rfl), fun _ => le_rfl⟩
  have htext : text ['-', '0', '0', '0', '4'] = "29/2/-0004 5:07:60" := rfl
  have htext' : text ['1', '9', '0', '0'] = "29/2/1900 5:07:60" := rfl
  obtain ⟨haccepts, hvalue, _⟩ := day_first_accepts_real_dates hd hm hleap hh hmi hs
  obtain ⟨hrejects, _⟩ := day_first_accepts_real_dates hd hm hcommon hh hmi hs
  obtain ⟨t, ht⟩ := Option.isSome_iff_exists.mp (haccepts.mpr (by decide))
  refine ⟨htext, htext', ?_, t, ht, hvalue t ht⟩
  exact Option.not_isSome_iff_eq_none.mp (mt hrejects.mp (by decide))

end DateTime

end TierRelay.Calendar
