import TierRelay.Proofs.DayCount
import TierRelay.Proofs.FormatOrder

namespace TierRelay.Calendar

open TierRelay.Text

def Date.dayFirstText (d : Date) : List Char :=
  padded 2 d.day ++ '/' :: padded 2 d.month ++ '/' :: padded 4 d.year.toNat

def Date.yearFirstText (d : Date) : List Char :=
  padded 4 d.year.toNat ++ '-' :: padded 2 d.month ++ '-' :: padded 2 d.day

def Time.minuteText (t : Time) : List Char :=
  padded 2 t.hour ++ ':' :: padded 2 t.minute

def Time.clockText (t : Time) : List Char :=
  t.minuteText ++ ':' :: padded 2 t.second

inductive IsFraction : List Char → Prop
  | none : IsFraction []
  | point {digits : List Char} : digits ≠ [] → (∀ c ∈ digits, c.isDigit = true) →
      IsFraction ('.' :: digits)

inductive IsOffset : Int → List Char → Prop
  | utc {c : Char} : c = 'Z' ∨ c = 'z' → IsOffset 0 [c]
  | east {hours minutes : Nat} : hours < 24 → minutes < 60 →
      IsOffset (hours * 60 + minutes : Nat) ('+' :: padded 2 hours ++ ':' :: padded 2 minutes)
  | west {c : Char} {hours minutes : Nat} : c = '-' ∨ c = '\u2212' → hours < 24 → minutes < 60 →
      IsOffset (-(hours * 60 + minutes : Nat)) (c :: padded 2 hours ++ ':' :: padded 2 minutes)

structure DateTime.IsPlain (t : DateTime) : Prop where
  year_nonneg : 0 ≤ t.date.year
  year_le : t.date.year ≤ 9999
  whole : t.time.nanos = 0

/-- The texts without an offset; a part that is left out is zero. -/
inductive Spells (t : DateTime) : List Char → Prop
  | dayFirst : Spells t (t.date.dayFirstText ++ ' ' :: t.time.clockText)
  | yearFirst {separator : Char} {fraction : List Char} : separator = 'T' ∨ separator = ' ' →
      IsFraction fraction →
      Spells t (t.date.yearFirstText ++ separator :: (t.time.clockText ++ fraction))
  | dayFirstMinute : t.time.second = 0 → Spells t (t.date.dayFirstText ++ ' ' :: t.time.minuteText)
  | yearFirstMinute : t.time.second = 0 →
      Spells t (t.date.yearFirstText ++ 'T' :: t.time.minuteText)
  | dayFirstDate : t.time = Time.midnight → Spells t t.date.dayFirstText
  | yearFirstDate : t.time = Time.midnight → Spells t t.date.yearFirstText

inductive SpellsWithOffset (t : DateTime) (offset : Int) : List Char → Prop
  | mk {separator : Char} {fraction zone : List Char} : separator ∈ ['T', 't', ' '] →
      IsFraction fraction → IsOffset offset zone →
      SpellsWithOffset t offset
        (t.date.yearFirstText ++ separator :: (t.time.clockText ++ (fraction ++ zone)))

lemma isTrimmed_padded (width n : Nat) : IsTrimmed (padded width n) :=
  isTrimmed_of_isDigit (padded_ne_nil width n) fun _ => isDigit_of_mem_padded

lemma isTrimmed_dayFirst (d : Date) : IsTrimmed d.dayFirstText :=
  isTrimmed_join (isTrimmed_join (isTrimmed_padded _ _) (isTrimmed_padded _ _) _)
    (isTrimmed_padded _ _) _

lemma isTrimmed_yearFirst (d : Date) : IsTrimmed d.yearFirstText :=
  isTrimmed_join (isTrimmed_join (isTrimmed_padded _ _) (isTrimmed_padded _ _) _)
    (isTrimmed_padded _ _) _

lemma isTrimmed_minuteText (t : Time) : IsTrimmed t.minuteText :=
  isTrimmed_join (isTrimmed_padded _ _) (isTrimmed_padded _ _) _

lemma isTrimmed_clockText (t : Time) : IsTrimmed t.clockText :=
  isTrimmed_join (isTrimmed_minuteText t) (isTrimmed_padded _ _) _

lemma IsFraction.isTrimmed_append {front fraction : List Char} (h : IsFraction fraction)
    (hf : IsTrimmed front) : IsTrimmed (front ++ fraction) := by
  cases h with
  | none => rwa [List.append_nil]
  | point hne hd => exact isTrimmed_join hf (isTrimmed_of_isDigit hne hd) _

lemma IsOffset.isTrimmed {offset : Int} {zone : List Char} (h : IsOffset offset zone) :
    IsTrimmed zone := by
  have hsingle {c : Char} (hc : isBlank c = false) : IsTrimmed [c] :=
    isTrimmed_of_not_isBlank (List.cons_ne_nil _ _) (by simpa using hc)
  cases h with
  | utc hc => exact hsingle (by rcases hc with rfl | rfl <;> simp [isBlank, blankRuns])
  | east =>
    have hsign : IsTrimmed ['+'] := hsingle (by simp [isBlank, blankRuns])
    exact isTrimmed_join (isTrimmed_append hsign (isTrimmed_padded _ _)) (isTrimmed_padded _ _) _
  | @west c _ _ hc =>
    have hsign : IsTrimmed [c] :=
      hsingle (by rcases hc with rfl | rfl <;> simp [isBlank, blankRuns])
    exact isTrimmed_join (isTrimmed_append hsign (isTrimmed_padded _ _)) (isTrimmed_padded _ _) _

variable {t : DateTime} {s rest fraction zone : List Char} {offset : Int}

lemma Spells.isTrimmed (h : Spells t s) : IsTrimmed s := by
  cases h with
  | dayFirst => exact isTrimmed_join (isTrimmed_dayFirst _) (isTrimmed_clockText _) _
  | yearFirst _ hfraction =>
    have hclock := hfraction.isTrimmed_append (isTrimmed_clockText t.time)
    exact isTrimmed_join (isTrimmed_yearFirst _) hclock _
  | dayFirstMinute => exact isTrimmed_join (isTrimmed_dayFirst _) (isTrimmed_minuteText _) _
  | yearFirstMinute => exact isTrimmed_join (isTrimmed_yearFirst _) (isTrimmed_minuteText _) _
  | dayFirstDate => exact isTrimmed_dayFirst _
  | yearFirstDate => exact isTrimmed_yearFirst _

lemma SpellsWithOffset.isTrimmed (h : SpellsWithOffset t offset s) : IsTrimmed s := by
  cases h with
  | mk _ _ hzone =>
    have hclock := (isTrimmed_clockText t.time).between hzone.isTrimmed
    exact isTrimmed_join (isTrimmed_yearFirst _) (List.append_assoc _ _ _ ▸ hclock _) _

lemma decimalValue_append_singleton (digits : List Char) (c : Char) :
    decimalValue (digits ++ [c]) = 10 * decimalValue digits + (c.toNat - '0'.toNat) :=
  Nat.ofDigitChars_append 0

lemma decimalValue_lt {digits : List Char} (hd : ∀ c ∈ digits, c.isDigit = true) :
    decimalValue digits < 10 ^ digits.length := by
  induction digits using List.reverseRecOn with
  | nil => decide
  | append_singleton digits c ih =>
    have hc : c.toNat - '0'.toNat < 10 := by
      obtain ⟨hzero, hnine⟩ := Char.isDigit_iff_toNat.mp (hd c (by simp))
      exact Nat.sub_lt_right_of_lt_add hzero (Nat.lt_succ_of_le hnine)
    have hdigits := ih fun c' hc' => hd c' (List.mem_append_left _ hc')
    calc decimalValue (digits ++ [c])
        = 10 * decimalValue digits + (c.toNat - '0'.toNat) :=
          decimalValue_append_singleton digits c
      _ < 10 * (decimalValue digits + 1) := by omega
      _ ≤ 10 * 10 ^ digits.length := Nat.mul_le_mul_left 10 hdigits
      _ = 10 ^ (digits ++ [c]).length := by
        rw [List.length_append, List.length_singleton, Nat.pow_succ']

lemma nanosOf_lt {digits : List Char} (hd : ∀ c ∈ digits, c.isDigit = true) :
    nanosOf digits < 10 ^ 9 := by
  have hlength : (digits.take 9 ++ List.replicate (9 - digits.length) '0').length = 9 := by
    rw [List.length_append, List.length_take, List.length_replicate]
    omega
  rw [← hlength]
  apply decimalValue_lt
  intro c hc
  rcases List.mem_append.mp hc with htake | hzero
  · exact hd c (List.mem_of_mem_take htake)
  · rw [List.eq_of_mem_replicate hzero]
    decide

lemma exists_fraction? (h : IsFraction fraction) (hr : EndsNumber rest)
    (hpoint : rest.head? ≠ some '.') :
    ∃ nanos < 10 ^ 9, fraction? (fraction ++ rest) = some (nanos, rest) := by
  cases h with
  | none =>
    refine ⟨0, by decide, ?_⟩
    rw [List.nil_append, fraction?]
    rintro tail rfl
    exact hpoint rfl
  | @point digits hne hd =>
    refine ⟨nanosOf digits, nanosOf_lt hd, ?_⟩
    rw [List.cons_append, fraction?, leadingDigits_unlimited hd hr]
    split
    · contradiction
    · rw [List.drop_left]

def DateTime.reading (t : DateTime) (nanos : Nat) : Reading :=
  ⟨t.date.year, t.date.month, t.date.day, t.time.hour, t.time.minute, t.time.second, nanos⟩

lemma exists_toDateTime? (ht : t.time.nanos = 0) {nanos : Nat} (hn : nanos < 10 ^ 9) :
    ∃ u, (t.reading nanos).toDateTime? = some u ∧ u.wholeSecond = t := by
  obtain ⟨hhour, hminute, hsecond, _⟩ := t.time.isTime
  have htime : IsTime t.time.hour t.time.minute t.time.second nanos :=
    ⟨hhour, hminute, hsecond, by omega, by omega⟩
  have hread : Time.ofWritten? t.time.hour t.time.minute t.time.second nanos =
      some ⟨_, _, _, nanos, htime⟩ := by
    rw [Time.ofWritten?, if_neg (by omega), Time.of?, dif_pos htime]
  refine ⟨⟨t.date, ⟨_, _, _, nanos, htime⟩⟩, ?_, ?_⟩
  · simp only [Reading.toDateTime?, DateTime.reading, Date.of?_self, hread]
    rfl
  · obtain ⟨date, time⟩ := t
    cases time
    cases ht
    rfl

lemma scan?_dayFirstText {d : Date} (hnonneg : 0 ≤ d.year) (hle : d.year ≤ 9999)
    (hr : EndsNumber rest) (r : Reading) : dayFirst.scan? (d.dayFirstText ++ rest) r =
      some ({ r with year := d.year, month := d.month, day := d.day }, rest) := by
  have h := scan?_dayFirst (isShort_padded d.day_lt) (isShort_padded d.month_lt)
    (isYear_padded hnonneg hle) hr r
  simpa [Date.dayFirstText] using h

lemma scan?_yearFirstText {d : Date} (hnonneg : 0 ≤ d.year) (hle : d.year ≤ 9999)
    (hr : EndsNumber rest) (r : Reading) : yearFirst.scan? (d.yearFirstText ++ rest) r =
      some ({ r with year := d.year, month := d.month, day := d.day }, rest) := by
  have h := scan?_yearFirst (isShort_padded d.day_lt) (isShort_padded d.month_lt)
    (isYear_padded hnonneg hle) hr r
  simpa [Date.yearFirstText] using h

lemma scan?_minuteText (t : Time) (hr : EndsNumber rest) (r : Reading) :
    hourMinute.scan? (t.minuteText ++ rest) r =
      some ({ r with hour := t.hour, minute := t.minute }, rest) := by
  have h := scan?_hourMinute (isShort_padded t.hour_lt) (isShort_padded t.minute_lt) hr r
  simpa [Time.minuteText] using h

lemma scan?_clockText (t : Time) (hr : EndsNumber rest) (r : Reading) :
    hourMinuteSecond.scan? (t.clockText ++ rest) r =
      some ({ r with hour := t.hour, minute := t.minute, second := t.second }, rest) := by
  have h := scan?_hourMinuteSecond (isShort_padded t.hour_lt) (isShort_padded t.minute_lt)
    (isShort_padded t.second_lt) hr r
  simpa [Time.clockText, Time.minuteText] using h

lemma IsFraction.endsNumber (h : IsFraction fraction) : EndsNumber fraction := by
  cases h with
  | none => exact endsNumber_nil
  | point => exact endsNumber_cons rfl

lemma scan?_fraction (h : IsFraction fraction) (r : Reading) : ∃ nanos < 10 ^ 9,
    Pattern.scan? [.field .fraction] fraction r = some ({ r with nanos }, []) := by
  obtain ⟨nanos, hnanos, hread⟩ := exists_fraction? h endsNumber_nil (by simp)
  rw [List.append_nil] at hread
  refine ⟨nanos, hnanos, ?_⟩
  simp only [Pattern.scan?, Piece.read?, Field.read?, hread, Option.map_some, Option.bind_some]

lemma exists_recogniser_of_scan? {p : Pattern} (hp : p ∈ patterns) (ht : t.time.nanos = 0)
    {nanos : Nat} (hn : nanos < 10 ^ 9) (h : p.scan? s {} = some (t.reading nanos, [])) :
    ∃ recognise ∈ recognisers, ∃ u, recognise s = some u ∧ u.wholeSecond = t := by
  refine ⟨p.recognise, mem_recognisers.mpr (.inl ⟨p, hp, rfl⟩), ?_⟩
  rw [Pattern.recognise, Pattern.read?_eq_some_iff.mpr h]
  exact exists_toDateTime? ht hn

lemma exists_recogniser_of_spells (ht : t.IsPlain) (hs : Spells t s) :
    ∃ recognise ∈ recognisers, ∃ u, recognise s = some u ∧ u.wholeSecond = t := by
  have hday {rest : List Char} (h : EndsNumber rest) :=
    scan?_dayFirstText ht.year_nonneg ht.year_le h {}
  have hyear {rest : List Char} (h : EndsNumber rest) :=
    scan?_yearFirstText ht.year_nonneg ht.year_le h {}
  have hminute := scan?_minuteText t.time endsNumber_nil
  have hclock {rest : List Char} (h : EndsNumber rest) := scan?_clockText t.time h
  have hzero : 0 < 10 ^ 9 := by decide
  cases hs with
  | dayFirst =>
    apply exists_recogniser_of_scan? (p := canonicalPattern) (by decide) ht.whole hzero
    rw [← List.append_nil t.time.clockText, canonicalPattern, List.append_assoc,
      Pattern.scan?_append (hday (endsNumber_cons rfl)),
      Pattern.scan?_append (scan?_blanks (isTrimmed_clockText _) _ _), hclock endsNumber_nil]
    rfl
  | @yearFirst separator fraction hseparator hfraction =>
    -- The pattern with a fraction takes the text without one as well.
    obtain ⟨piece, hp, hpiece⟩ : ∃ piece : Piece,
        yearFirst ++ [piece] ++ hourMinuteSecond ++ [.field .fraction] ∈ patterns ∧
        ∀ r, Pattern.scan? [piece] (separator :: (t.time.clockText ++ fraction)) r =
          some (r, t.time.clockText ++ fraction) := by
      rcases hseparator with rfl | rfl
      · exact ⟨.char 'T', by decide, scan?_char 'T' _⟩
      · exact ⟨.blanks, by decide, scan?_blanks (isTrimmed_clockText _) _⟩
    have hends : EndsNumber (separator :: (t.time.clockText ++ fraction)) :=
      endsNumber_cons (by rcases hseparator with rfl | rfl <;> rfl)
    obtain ⟨nanos, hnanos, hread⟩ := scan?_fraction hfraction (t.reading 0)
    apply exists_recogniser_of_scan? hp ht.whole hnanos
    rw [List.append_assoc, List.append_assoc, Pattern.scan?_append (hyear hends),
      Pattern.scan?_append (hpiece _),
      Pattern.scan?_append (hclock hfraction.endsNumber _)]
    exact hread
  | dayFirstMinute hsecond =>
    apply exists_recogniser_of_scan? (p := dayFirst ++ [.blanks] ++ hourMinute) (by decide) ht.whole
      hzero
    rw [← List.append_nil t.time.minuteText, List.append_assoc,
      Pattern.scan?_append (hday (endsNumber_cons rfl)),
      Pattern.scan?_append (scan?_blanks (isTrimmed_minuteText _) _ _), hminute, DateTime.reading,
      hsecond]
  | yearFirstMinute hsecond =>
    apply exists_recogniser_of_scan? (p := yearFirst ++ [.char 'T'] ++ hourMinute) (by decide)
      ht.whole hzero
    rw [← List.append_nil t.time.minuteText, List.append_assoc,
      Pattern.scan?_append (hyear (endsNumber_cons rfl)),
      Pattern.scan?_append (scan?_char 'T' _ _), hminute, DateTime.reading, hsecond]
  | dayFirstDate htime =>
    apply exists_recogniser_of_scan? (p := dayFirst) (by decide) ht.whole hzero
    rw [← List.append_nil t.date.dayFirstText, hday endsNumber_nil, DateTime.reading, htime]
    rfl
  | yearFirstDate htime =>
    apply exists_recogniser_of_scan? (p := yearFirst) (by decide) ht.whole hzero
    rw [← List.append_nil t.date.yearFirstText, hyear endsNumber_nil, DateTime.reading, htime]
    rfl

namespace Rfc3339

lemma digits?_padded {width n : Nat} (hwidth : 0 < width) (h : n < 10 ^ width) (rest : List Char) :
    digits? width (padded width n ++ rest) = some (n, rest) := by
  have hlength := length_padded hwidth h
  have hdigits : (padded width n).all Char.isDigit = true :=
    List.all_eq_true.mpr fun _ => isDigit_of_mem_padded
  simp only [digits?, List.take_left' hlength, List.drop_left' hlength, decimalValue_padded]
  exact if_pos ⟨hlength, hdigits⟩

lemma char?_cons {accepted : List Char} {c : Char} (h : c ∈ accepted) (rest : List Char) :
    char? accepted (c :: rest) = some rest :=
  if_pos h

lemma offset?_signed {c : Char} {sign : Int} {hours minutes : Nat}
    (hc : c = '+' ∧ sign = 1 ∨ (c = '-' ∨ c = '\u2212') ∧ sign = -1) (hhours : hours < 24)
    (hminutes : minutes < 60) :
    offset? (c :: padded 2 hours ++ ':' :: padded 2 minutes) =
      some (sign * (hours * 60 + minutes : Nat), []) := by
  have hh := digits?_padded (by decide) (show hours < 10 ^ 2 by omega)
  have hm := digits?_padded (by decide) (show minutes < 10 ^ 2 by omega) []
  rw [List.append_nil] at hm
  have hcolon := char?_cons (List.mem_cons_self : ':' ∈ [':'])
  rcases hc with ⟨rfl, rfl⟩ | ⟨rfl | rfl, rfl⟩
  all_goals
    rw [List.cons_append, offset?]
    simp [hh, hm, hcolon, hhours, hminutes]

lemma offset?_of_isOffset (h : IsOffset offset zone) : offset? zone = some (offset, []) := by
  cases h with
  | utc hc => rcases hc with rfl | rfl <;> rfl
  | @east hours minutes hhours hminutes =>
    have h := offset?_signed (.inl ⟨rfl, rfl⟩) hhours hminutes
    rwa [Int.one_mul] at h
  | @west c hours minutes hc hhours hminutes =>
    have h := offset?_signed (.inr ⟨hc, rfl⟩) hhours hminutes
    rwa [Int.neg_one_mul] at h

end Rfc3339

lemma IsOffset.bounds (h : IsOffset offset zone) : -1440 < offset ∧ offset < 1440 := by
  cases h <;> omega

lemma IsOffset.head (h : IsOffset offset zone) : EndsNumber zone ∧ zone.head? ≠ some '.' := by
  cases h with
  | utc hc => rcases hc with rfl | rfl <;> exact ⟨endsNumber_cons rfl, by decide⟩
  | east => exact ⟨endsNumber_cons rfl, by simp⟩
  | west hc => rcases hc with rfl | rfl <;> exact ⟨endsNumber_cons rfl, by simp⟩

namespace Rfc3339

lemma recognise_of_reads (ht : t.IsPlain) {separator : Char} {nanos : Nat} {v u : DateTime}
    (hseparator : separator ∈ ['T', 't', ' '])
    (hfraction : fraction? (fraction ++ zone) = some (nanos, zone)) (hzone : IsOffset offset zone)
    (hv : (t.reading nanos).toDateTime? = some v) (hu : v.minusMinutes? offset = some u) :
    recognise (t.date.yearFirstText ++ separator :: (t.time.clockText ++ (fraction ++ zone))) =
      some u := by
  obtain ⟨hnonneg, hle, _⟩ := ht
  have hhyphen := char?_cons (List.mem_cons_self : '-' ∈ ['-'])
  have hcolon := char?_cons (List.mem_cons_self : ':' ∈ [':'])
  have hyear := digits?_padded (by decide) (show t.date.year.toNat < 10 ^ 4 by omega)
  have htwo {n : Nat} (h : n < 100) := digits?_padded (show 0 < 2 by decide) h
  simp only [Date.yearFirstText, Time.clockText, Time.minuteText, List.append_assoc,
    List.cons_append]
  refine Option.bind_eq_some_iff.mpr ⟨_, hyear _, ?_⟩
  refine Option.bind_eq_some_iff.mpr ⟨_, hhyphen _, ?_⟩
  refine Option.bind_eq_some_iff.mpr ⟨_, htwo t.date.month_lt _, ?_⟩
  refine Option.bind_eq_some_iff.mpr ⟨_, hhyphen _, ?_⟩
  refine Option.bind_eq_some_iff.mpr ⟨_, htwo t.date.day_lt _, ?_⟩
  refine Option.bind_eq_some_iff.mpr ⟨_, char?_cons hseparator _, ?_⟩
  refine Option.bind_eq_some_iff.mpr ⟨_, htwo t.time.hour_lt _, ?_⟩
  refine Option.bind_eq_some_iff.mpr ⟨_, hcolon _, ?_⟩
  refine Option.bind_eq_some_iff.mpr ⟨_, htwo t.time.minute_lt _, ?_⟩
  refine Option.bind_eq_some_iff.mpr ⟨_, hcolon _, ?_⟩
  refine Option.bind_eq_some_iff.mpr ⟨_, htwo t.time.second_lt _, ?_⟩
  refine Option.bind_eq_some_iff.mpr ⟨_, hfraction, ?_⟩
  refine Option.bind_eq_some_iff.mpr ⟨_, offset?_of_isOffset hzone, ?_⟩
  rw [Int.toNat_of_nonneg hnonneg]
  exact Option.bind_eq_some_iff.mpr ⟨v, hv, hu⟩

lemma exists_recognise (ht : t.IsPlain) (hs : SpellsWithOffset t offset s) :
    ∃ u, recognise s = some u ∧ u.instant = t.instant - 60 * offset ∧
      -1 ≤ u.date.year ∧ u.date.year ≤ 10000 := by
  have ⟨hnonneg, hle, hwhole⟩ := ht
  cases hs with
  | @mk separator fraction zone hseparator hfraction hzone =>
    obtain ⟨hends, hpoint⟩ := hzone.head
    obtain ⟨nanos, hnanos, hread⟩ := exists_fraction? hfraction hends hpoint
    obtain ⟨v, hv, hvt⟩ := exists_toDateTime? hwhole hnanos
    have hdate : v.date = t.date := by rw [← hvt]; rfl
    have hinstant : v.instant = t.instant := by rw [← hvt, DateTime.instant_wholeSecond]
    obtain ⟨hlow, hhigh⟩ := hzone.bounds
    obtain ⟨u, hu, hui, hyear, hyear'⟩ := v.exists_minusMinutes? hlow hhigh
      (by rw [hdate, firstYear]; omega) (by rw [hdate, lastYear]; omega)
    rw [hdate] at hyear hyear'
    rw [hinstant] at hui
    exact ⟨u, recognise_of_reads ht hseparator hread hzone hv hu, hui, by omega, by omega⟩

end Rfc3339

def Wraps (text : String) (core : List Char) : Prop :=
  ∃ front back, text.toList = front ++ core ++ back ∧ (∀ c ∈ front, isBlank c = true) ∧
    ∀ c ∈ back, isBlank c = true

lemma trim_of_wraps {text : String} (h : Wraps text s) (hs : IsTrimmed s) :
    trim text.toList = s := by
  obtain ⟨front, back, htext, hfront, hback⟩ := h
  rw [htext, hs.trim_surrounded hfront hback]

namespace DateTime

variable {text : String}

lemma parse?_of_spells (ht : t.IsPlain) (hs : Spells t s) (htext : Wraps text s) :
    parse? text = some t := by
  rw [parse?_eq_some_iff, trim_of_wraps htext hs.isTrimmed]
  exact exists_recogniser_of_spells ht hs

lemma exists_parse?_with_offset (ht : t.IsPlain) (hs : SpellsWithOffset t offset s)
    (htext : Wraps text s) : ∃ u, parse? text = some u ∧ u.time.nanos = 0 ∧
      u.instant = t.instant - 60 * offset ∧ -1 ≤ u.date.year ∧ u.date.year ≤ 10000 := by
  obtain ⟨u, hu, hinstant, hlow, hhigh⟩ := Rfc3339.exists_recognise ht hs
  refine ⟨u.wholeSecond, ?_, rfl, hinstant, hlow, hhigh⟩
  rw [parse?_eq_some_iff, trim_of_wraps htext hs.isTrimmed]
  exact ⟨_, mem_recognisers.mpr (.inr rfl), u, hu, rfl⟩

lemma parse?_with_offset_eq_some_iff (ht : t.IsPlain) (hs : SpellsWithOffset t offset s)
    (htext : Wraps text s) {u : DateTime} : parse? text = some u ↔
      u.time.nanos = 0 ∧ u.instant = t.instant - 60 * offset := by
  obtain ⟨v, hv, hwhole, hinstant, _⟩ := exists_parse?_with_offset ht hs htext
  rw [hv, Option.some_inj]
  constructor
  · rintro rfl
    exact ⟨hwhole, hinstant⟩
  · rintro ⟨hu, hui⟩
    exact eq_of_instant_eq hwhole hu (hinstant.trans hui.symm)

/-- A whole second is read from each of its spellings. With an offset, what is read is the one whole
second in UTC that the local time denotes, so two such texts are read alike exactly if they denote
the same. -/
theorem spellings_agree :
    (∀ (t : DateTime) (s : List Char) (text : String), t.IsPlain → Spells t s → Wraps text s →
      parse? text = some t) ∧
    (∀ (t : DateTime) (offset : Int) (s : List Char) (text : String), t.IsPlain →
      SpellsWithOffset t offset s → Wraps text s →
        (∃ u, parse? text = some u ∧ -1 ≤ u.date.year ∧ u.date.year ≤ 10000) ∧
        ∀ u, parse? text = some u ↔
          u.time.nanos = 0 ∧ u.instant = t.instant - 60 * offset) ∧
    ∀ (t t' : DateTime) (offset offset' : Int) (s s' : List Char) (text text' : String), t.IsPlain →
      t'.IsPlain → SpellsWithOffset t offset s → SpellsWithOffset t' offset' s' → Wraps text s →
        Wraps text' s' →
        (parse? text = parse? text' ↔
          t.instant - 60 * offset = t'.instant - 60 * offset') := by
  refine ⟨fun t s text => parse?_of_spells, ?_, ?_⟩
  · intro t offset s text ht hs htext
    obtain ⟨u, hu, _, _, hyears⟩ := exists_parse?_with_offset ht hs htext
    exact ⟨⟨u, hu, hyears⟩, fun u => parse?_with_offset_eq_some_iff ht hs htext⟩
  · intro t t' offset offset' s s' text text' ht ht' hs hs' htext htext'
    obtain ⟨u, hu, hwhole, hinstant, _⟩ := exists_parse?_with_offset ht hs htext
    rw [hu, eq_comm, parse?_with_offset_eq_some_iff ht' hs' htext', ← hinstant]
    exact ⟨And.right, And.intro hwhole⟩

theorem spellings_agree_over_month_end :
    let t : DateTime := ⟨⟨2024, 3, 1, by decide⟩, ⟨0, 10, 0, 0, by decide⟩⟩
    let t' : DateTime := ⟨⟨2024, 2, 29, by decide⟩, ⟨18, 40, 0, 0, by decide⟩⟩
    let u : DateTime := ⟨⟨2024, 2, 29, by decide⟩, ⟨23, 40, 0, 0, by decide⟩⟩
    let plain := "01/03/2024 00:10"
    let east := "2024-03-01T00:10:00.05+00:30"
    let west := "2024-02-29 18:40:00\u221205:00"
    t.IsPlain ∧ t'.IsPlain ∧ Spells t plain.toList ∧ SpellsWithOffset t 30 east.toList ∧
      SpellsWithOffset t' (-300) west.toList ∧ Wraps " 01/03/2024 00:10\u3000" plain.toList ∧
      Wraps east east.toList ∧ Wraps west west.toList ∧
      parse? " 01/03/2024 00:10\u3000" = some t ∧ parse? east = some u ∧
      parse? east = parse? west := by
  intro t t' u plain east west
  obtain ⟨hplain, hoffset, hsame⟩ := spellings_agree
  have ht : t.IsPlain := ⟨by decide, by decide, rfl⟩
  have ht' : t'.IsPlain := ⟨by decide, by decide, rfl⟩
  have hs : Spells t plain.toList := by
    have h : t.date.dayFirstText ++ ' ' :: t.time.minuteText = plain.toList := by
      subst t plain
      cbv
    exact h ▸ .dayFirstMinute rfl
  have he : SpellsWithOffset t 30 east.toList := by
    have h : t.date.yearFirstText ++ 'T' :: (t.time.clockText ++ (['.', '0', '5'] ++
        ('+' :: padded 2 0 ++ ':' :: padded 2 30))) = east.toList := by
      subst t east
      cbv
    have hfraction : IsFraction ['.', '0', '5'] := .point (List.cons_ne_nil _ _) (by simp)
    have hzone : IsOffset 30 ('+' :: padded 2 0 ++ ':' :: padded 2 30) :=
      .east (by decide : 0 < 24) (by decide : 30 < 60)
    exact h ▸ .mk (by decide) hfraction hzone
  have hw : SpellsWithOffset t' (-300) west.toList := by
    have h : t'.date.yearFirstText ++ ' ' :: (t'.time.clockText ++ ([] ++
        ('\u2212' :: padded 2 5 ++ ':' :: padded 2 0))) = west.toList := by
      subst t' west
      cbv
    have hzone : IsOffset (-300) ('\u2212' :: padded 2 5 ++ ':' :: padded 2 0) :=
      .west (.inr rfl) (by decide : 5 < 24) (by decide : 0 < 60)
    exact h ▸ .mk (by decide) .none hzone
  have hbare (text : String) : Wraps text text.toList := ⟨[], [], by simp, by simp, by simp⟩
  have hwrapped : Wraps " 01/03/2024 00:10\u3000" plain.toList := by
    refine ⟨[' '], ['\u3000'], ?_, by simp [isBlank, blankRuns], by simp [isBlank, blankRuns]⟩
    subst plain
    cbv
  refine ⟨ht, ht', hs, he, hw, hwrapped, hbare _, hbare _, hplain t _ _ ht hs hwrapped, ?_, ?_⟩
  · exact ((hoffset t 30 _ _ ht he (hbare _)).2 u).mpr ⟨rfl, by decide⟩
  · exact (hsame t t' 30 (-300) _ _ _ _ ht ht' he hw (hbare _) (hbare _)).mpr (by decide)

end DateTime

end TierRelay.Calendar
