import TierRelay.Proofs.Marks

/-!
Two recognisers that take one text have the same marks, so what they read differs by a fraction of
a second at most, and this is cut off.
-/

namespace TierRelay.Calendar

open TierRelay.Text

variable {s : List Char}

def patterns : List Pattern :=
  dateTimePatterns ++ datePatterns

def dayFirstRecognisers : List (List Char → Option DateTime) :=
  (patterns.filter fun p => dayFirst <+: p).map Pattern.recognise

def yearFirstRecognisers : List (List Char → Option DateTime) :=
  (patterns.filter fun p => yearFirst <+: p).map Pattern.recognise ++ [Rfc3339.recognise]

lemma eq_or_fraction_of_marks : ∀ p ∈ patterns, ∀ q ∈ patterns, p.marks = q.marks →
    p = q ∨ q = p ++ [.field .fraction] ∨ p = q ++ [.field .fraction] := by
  decide

lemma marks_ne_of_day_and_year : ∀ p ∈ patterns, ∀ q ∈ patterns, dayFirst <+: p → yearFirst <+: q →
    p.marks ≠ q.marks := by
  decide

lemma not_zoned_suffix_marks :
    ∀ p ∈ patterns, ∀ zoned ∈ Rfc3339.zonedMarks, ¬ zoned <:+ p.marks := by
  decide

lemma Reading.fields_of_toDateTime? {r : Reading} {t : DateTime} (h : r.toDateTime? = some t) :
    t.date.year = r.year ∧ t.date.month = r.month ∧ t.date.day = r.day ∧ t.time.hour = r.hour ∧
      t.time.minute = r.minute ∧ t.time.second = if r.second = 60 then 59 else r.second := by
  obtain ⟨date, hdate, h⟩ := Option.bind_eq_some_iff.mp h
  obtain ⟨time, htime, heq⟩ := Option.bind_eq_some_iff.mp h
  cases heq
  obtain ⟨hyear, hmonth, hday⟩ := Date.of?_eq_some.mp hdate
  refine ⟨hyear, hmonth, hday, ?_⟩
  rw [Time.ofWritten?] at htime
  split at htime
  all_goals
    next hsecond =>
    simp only [Time.of?, Option.dite_none_right_eq_some, Option.some.injEq] at htime
    obtain ⟨_, rfl⟩ := htime
    simp only [hsecond, if_true, if_false, and_self]

namespace DateTime

lemma wholeSecond_ext {t u : DateTime} (hyear : t.date.year = u.date.year)
    (hmonth : t.date.month = u.date.month) (hday : t.date.day = u.date.day)
    (hhour : t.time.hour = u.time.hour) (hminute : t.time.minute = u.time.minute)
    (hsecond : t.time.second = u.time.second) : t.wholeSecond = u.wholeSecond := by
  obtain ⟨⟨year, month, day, _⟩, ⟨hour, minute, second, nanos, _⟩⟩ := t
  obtain ⟨⟨year', month', day', _⟩, ⟨hour', minute', second', nanos', _⟩⟩ := u
  dsimp only at *
  subst hyear hmonth hday hhour hminute hsecond
  rfl

end DateTime

lemma wholeSecond_of_fraction {p : Pattern} {t u : DateTime} (ht : p.recognise s = some t)
    (hu : Pattern.recognise (p ++ [.field .fraction]) s = some u) :
    t.wholeSecond = u.wholeSecond := by
  obtain ⟨r, hr, ht⟩ := Option.bind_eq_some_iff.mp ht
  obtain ⟨r', hr', hu⟩ := Option.bind_eq_some_iff.mp hu
  rw [Pattern.read?_eq_some_iff] at hr hr'
  rw [Pattern.scan?_append hr] at hr'
  cases hr'
  obtain ⟨hyear, hmonth, hday, hhour, hminute, hsecond⟩ := Reading.fields_of_toDateTime? ht
  obtain ⟨hyear', hmonth', hday', hhour', hminute', hsecond'⟩ := Reading.fields_of_toDateTime? hu
  exact DateTime.wholeSecond_ext (hyear.trans hyear'.symm) (hmonth.trans hmonth'.symm)
    (hday.trans hday'.symm) (hhour.trans hhour'.symm) (hminute.trans hminute'.symm)
    (hsecond.trans hsecond'.symm)

lemma mem_recognisers {recognise : List Char → Option DateTime} : recognise ∈ recognisers ↔
    (∃ p ∈ patterns, p.recognise = recognise) ∨ recognise = Rfc3339.recognise := by
  simp only [recognisers, patterns, List.mem_append, List.mem_map, List.mem_singleton]
  grind

lemma not_both_rfc3339 {p : Pattern} (hp : p ∈ patterns) {t u : DateTime}
    (ht : p.recognise s = some t) (hu : Rfc3339.recognise s = some u) : False := by
  obtain ⟨zoned, hzoned, hsuffix⟩ := Rfc3339.marks_of_recognise hu
  rw [p.marks_of_recognise ht] at hsuffix
  exact not_zoned_suffix_marks p hp zoned hzoned hsuffix

lemma wholeSecond_eq_of_recognisers {f g : List Char → Option DateTime} (hf : f ∈ recognisers)
    (hg : g ∈ recognisers) {t u : DateTime} (ht : f s = some t) (hu : g s = some u) :
    t.wholeSecond = u.wholeSecond := by
  rcases mem_recognisers.mp hf with ⟨p, hp, rfl⟩ | rfl
  · rcases mem_recognisers.mp hg with ⟨q, hq, rfl⟩ | rfl
    · have hmarks : p.marks = q.marks := by
        rw [← p.marks_of_recognise ht, q.marks_of_recognise hu]
      obtain rfl | rfl | rfl := eq_or_fraction_of_marks p hp q hq hmarks
      · rw [ht] at hu
        cases hu
        rfl
      · exact wholeSecond_of_fraction ht hu
      · exact (wholeSecond_of_fraction hu ht).symm
    · exact (not_both_rfc3339 hp ht hu).elim
  · rcases mem_recognisers.mp hg with ⟨q, hq, rfl⟩ | rfl
    · exact (not_both_rfc3339 hq hu ht).elim
    · rw [ht] at hu
      cases hu
      rfl

lemma map_findSome?_eq_some_iff {α β γ : Type} {l : List α} {f : α → Option β} {g : β → γ} {y : γ}
    (hagree : ∀ a ∈ l, ∀ b ∈ l, ∀ x x', f a = some x → f b = some x' → g x = g x') :
    (l.findSome? f).map g = some y ↔ ∃ a ∈ l, ∃ x, f a = some x ∧ g x = y := by
  rw [Option.map_eq_some_iff]
  constructor
  · rintro ⟨x, hx, hy⟩
    obtain ⟨a, ha, hax⟩ := List.exists_of_findSome?_eq_some hx
    exact ⟨a, ha, x, hax, hy⟩
  · rintro ⟨a, ha, x, hax, rfl⟩
    cases hfirst : l.findSome? f with
    | none =>
      rw [List.findSome?_eq_none_iff.mp hfirst a ha] at hax
      cases hax
    | some x' =>
      obtain ⟨b, hb, hbx⟩ := List.exists_of_findSome?_eq_some hfirst
      exact ⟨x', rfl, hagree b hb a ha x' x hbx hax⟩

namespace DateTime

lemma firstOf_eq_some_iff {order : List (List Char → Option DateTime)}
    (horder : order.Perm recognisers) {t : DateTime} :
    (order.findSome? (· s)).map wholeSecond = some t ↔
      ∃ recognise ∈ recognisers, ∃ u, recognise s = some u ∧ u.wholeSecond = t := by
  rw [map_findSome?_eq_some_iff]
  · simp only [horder.mem_iff]
  · intro f hf g hg t u ht hu
    exact wholeSecond_eq_of_recognisers (horder.mem_iff.mp hf) (horder.mem_iff.mp hg) ht hu

lemma parse?_eq_some_iff {text : String} {t : DateTime} : parse? text = some t ↔
    ∃ recognise ∈ recognisers, ∃ u, recognise (trim text.toList) = some u ∧ u.wholeSecond = t :=
  firstOf_eq_some_iff (.refl _)

lemma not_both_day_and_year_first {f g : List Char → Option DateTime}
    (hf : f ∈ dayFirstRecognisers) (hg : g ∈ yearFirstRecognisers) (s : List Char) :
    f s = none ∨ g s = none := by
  rw [dayFirstRecognisers, List.mem_map] at hf
  obtain ⟨p, hp, rfl⟩ := hf
  obtain ⟨hp, hday⟩ := List.mem_filter.mp hp
  cases ht : p.recognise s with
  | none => exact .inl rfl
  | some t =>
    right
    by_contra hne
    obtain ⟨u, hu⟩ := Option.ne_none_iff_exists'.mp hne
    rw [yearFirstRecognisers, List.mem_append, List.mem_map, List.mem_singleton] at hg
    rcases hg with ⟨q, hq, rfl⟩ | rfl
    · obtain ⟨hq, hyear⟩ := List.mem_filter.mp hq
      apply marks_ne_of_day_and_year p hp q hq (of_decide_eq_true hday) (of_decide_eq_true hyear)
      rw [← p.marks_of_recognise ht, q.marks_of_recognise hu]
    · exact not_both_rfc3339 hp ht hu

lemma mem_day_or_year_first {f : List Char → Option DateTime} (hf : f ∈ recognisers) :
    f ∈ dayFirstRecognisers ∨ f ∈ yearFirstRecognisers := by
  have hbegins : ∀ p ∈ patterns, dayFirst <+: p ∨ yearFirst <+: p := by decide
  rw [dayFirstRecognisers, yearFirstRecognisers, List.mem_append, List.mem_singleton]
  rcases mem_recognisers.mp hf with ⟨p, hp, rfl⟩ | rfl
  · rcases hbegins p hp with h | h
    · exact .inl (List.mem_map_of_mem (List.mem_filter.mpr ⟨hp, decide_eq_true h⟩))
    · exact .inr (.inl (List.mem_map_of_mem (List.mem_filter.mpr ⟨hp, decide_eq_true h⟩)))
  · exact .inr (.inr rfl)

/-- Recognisers that take the same text agree, so they may be tried in any order; and each begins
with the day or with the year, but no text is taken both ways. -/
theorem order_is_irrelevant :
    (∀ f ∈ recognisers, ∀ g ∈ recognisers, ∀ (text : String) (t u : DateTime),
      f (trim text.toList) = some t → g (trim text.toList) = some u →
        t.wholeSecond = u.wholeSecond) ∧
    (∀ order : List (List Char → Option DateTime), order.Perm recognisers → ∀ text : String,
      (order.findSome? fun recognise => recognise (trim text.toList)).map wholeSecond =
        parse? text) ∧
    (∀ f ∈ recognisers, f ∈ dayFirstRecognisers ∨ f ∈ yearFirstRecognisers) ∧
    ∀ f ∈ dayFirstRecognisers, ∀ g ∈ yearFirstRecognisers, ∀ text : String,
      f (trim text.toList) = none ∨ g (trim text.toList) = none := by
  refine ⟨?_, ?_, fun f => mem_day_or_year_first, ?_⟩
  · intro f hf g hg text t u
    exact wholeSecond_eq_of_recognisers hf hg
  · intro order horder text
    apply Option.ext
    intro t
    rw [firstOf_eq_some_iff horder, parse?_eq_some_iff]
  · intro f hf g hg text
    exact not_both_day_and_year_first hf hg _

theorem order_is_irrelevant_of_fraction :
    let text := " 2024-05-06 07:08:09\u3000"
    let t : DateTime := ⟨⟨2024, 5, 6, by decide⟩, ⟨7, 8, 9, 0, by decide⟩⟩
    let plain : Pattern := yearFirst ++ [.blanks] ++ hourMinuteSecond
    let exact : Pattern := plain ++ [.field .fraction]
    plain.recognise (trim text.toList) = some t ∧ exact.recognise (trim text.toList) = some t ∧
      t.wholeSecond = t.wholeSecond ∧ recognisers.reverse.Perm recognisers ∧
      (recognisers.reverse.findSome? fun recognise => recognise (trim text.toList)).map
        wholeSecond = parse? text ∧
      (canonicalPattern.recognise ∈ dayFirstRecognisers ∨
        canonicalPattern.recognise ∈ yearFirstRecognisers) ∧
      canonicalPattern.recognise (trim text.toList) = none := by
  intro text t plain exact
  obtain ⟨hagree, horder, hall, hapart⟩ := order_is_irrelevant
  have hplain : plain.recognise (trim text.toList) = some t := by cbv
  have hexact : exact.recognise (trim text.toList) = some t := by cbv
  have hmem {p : Pattern} (hp : p ∈ patterns) : p.recognise ∈ recognisers :=
    mem_recognisers.mpr (.inl ⟨p, hp, rfl⟩)
  have hday : canonicalPattern.recognise ∈ dayFirstRecognisers :=
    List.mem_map_of_mem (by decide)
  have hyear : plain.recognise ∈ yearFirstRecognisers :=
    List.mem_append_left _ (List.mem_map_of_mem (by decide))
  refine ⟨hplain, hexact, ?_, recognisers.reverse_perm, ?_, ?_, ?_⟩
  · exact hagree _ (hmem (by decide)) _ (hmem (by decide)) text t t hplain hexact
  · exact horder _ recognisers.reverse_perm text
  · exact hall _ (hmem (by decide))
  · rcases hapart _ hday _ hyear text with h | h
    · exact h
    · rw [hplain] at h
      cases h

end DateTime

end TierRelay.Calendar
