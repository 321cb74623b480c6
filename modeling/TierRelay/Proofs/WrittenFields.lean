import TierRelay.Calendar.Wire
import TierRelay.Proofs.Numeral

namespace TierRelay.Calendar

open TierRelay.Text

namespace Pattern

def scan? : Pattern → List Char → Reading → Option (Reading × List Char)
  | [], s, r => some (r, s)
  | p :: ps, s, r => (p.read? s r).bind fun (r, rest) => scan? ps rest r

lemma scan?_append {p : Pattern} {s rest : List Char} {r r' : Reading}
    (h : p.scan? s r = some (r', rest)) (q : Pattern) :
    scan? (p ++ q) s r = q.scan? rest r' := by
  induction p generalizing s r with
  | nil =>
    cases h
    rfl
  | cons piece p ih =>
    obtain ⟨⟨r₁, s₁⟩, hpiece, hrest⟩ := Option.bind_eq_some_iff.mp h
    rw [List.cons_append, scan?, hpiece]
    exact ih hrest

lemma read?_eq_some_iff {p : Pattern} {s : List Char} {r r' : Reading} :
    p.read? s r = some r' ↔ p.scan? s r = some (r', []) := by
  induction p generalizing s r with
  | nil => cases s <;> simp [read?, scan?]
  | cons piece p ih =>
    simp only [read?, scan?, Option.bind_eq_bind, Option.bind_eq_some_iff, ih]

end Pattern

structure IsShort (digits : List Char) (n : Nat) : Prop where
  ne_nil : digits ≠ []
  length_le : digits.length ≤ 2
  isDigit : ∀ c ∈ digits, c.isDigit = true
  value : decimalValue digits = n

structure IsYear (s : List Char) (year : Int) : Prop where
  isNumeral : IsNumeral s year
  length_le : (∀ c ∈ s, c.isDigit = true) → s.length ≤ 4

lemma isShort_padded {n : Nat} (h : n < 100) : IsShort (padded 2 n) n where
  ne_nil := padded_ne_nil 2 n
  length_le := (length_padded (by decide) h).le
  isDigit _ := isDigit_of_mem_padded
  value := decimalValue_padded 2 n

lemma isYear_padded {year : Int} (hnonneg : 0 ≤ year) (hle : year ≤ 9999) :
    IsYear (padded 4 year.toNat) year where
  isNumeral := by
    have h := IsNumeral.plain (padded_ne_nil 4 year.toNat) fun _ => isDigit_of_mem_padded
    rwa [decimalValue_padded, Int.toNat_of_nonneg hnonneg] at h
  length_le _ := (length_padded (by decide) (by omega)).le

lemma Date.month_lt (d : Date) : d.month < 100 := by
  obtain ⟨_, _, _, hmonth, _⟩ := d.isDay
  omega

lemma Date.day_lt (d : Date) : d.day < 100 := by
  obtain ⟨_, _, _, _, _, hday⟩ := d.isDay
  have := Date.monthLength_le d.year d.month
  omega

lemma Time.hour_lt (t : Time) : t.hour < 100 := by
  obtain ⟨hhour, _⟩ := t.isTime
  omega

lemma Time.minute_lt (t : Time) : t.minute < 100 := by
  obtain ⟨_, hminute, _⟩ := t.isTime
  omega

lemma Time.second_lt (t : Time) : t.second < 100 := by
  obtain ⟨_, _, hsecond, _⟩ := t.isTime
  omega

def EndsNumber (rest : List Char) : Prop :=
  ∀ c, rest.head? = some c → c.isDigit = false

variable {digits rest d m y h mi s : List Char} {day month hour minute second : Nat} {year : Int}

lemma endsNumber_nil : EndsNumber [] :=
  nofun

lemma endsNumber_cons {c : Char} (hc : c.isDigit = false) : EndsNumber (c :: rest) := by
  rintro _ ⟨⟩
  exact hc

lemma number?_unlimited (hne : digits ≠ []) (hd : ∀ c ∈ digits, c.isDigit = true)
    (hr : EndsNumber rest) : number? none (digits ++ rest) = some (decimalValue digits, rest) :=
  number?_eq_some hne (leadingDigits_unlimited hd hr)

lemma number?_limited {width : Nat} (hne : digits ≠ []) (hd : ∀ c ∈ digits, c.isDigit = true)
    (hwidth : digits.length ≤ width) (hr : EndsNumber rest) :
    number? (some width) (digits ++ rest) = some (decimalValue digits, rest) := by
  apply number?_eq_some hne
  calc leadingDigits (some width) (digits ++ rest)
      = (leadingDigits none (digits ++ rest)).take width := rfl
    _ = digits := by rw [leadingDigits_unlimited hd hr, List.take_of_length_le hwidth]

lemma IsShort.isTrimmed {n : Nat} (h : IsShort digits n) : IsTrimmed digits :=
  isTrimmed_of_isDigit h.ne_nil h.isDigit

lemma IsShort.twoDigits? {n : Nat} (h : IsShort digits n) (hr : EndsNumber rest) :
    Calendar.twoDigits? (digits ++ rest) = some (n, rest) := by
  rw [Calendar.twoDigits?, skipBlanks_of_head fun _ => isBlank_of_head h.isTrimmed,
    number?_limited h.ne_nil h.isDigit h.length_le hr, h.value]

lemma year?_of_isDigit {c : Char} {s : List Char} (h : c.isDigit = true) :
    year? (c :: s) = (number? (some 4) (c :: s)).map fun (n, rest) => ((n : Int), rest) := by
  have hm : c ≠ '-' := by rintro rfl; exact absurd h (by decide)
  have hp : c ≠ '+' := by rintro rfl; exact absurd h (by decide)
  rw [year?]
  · exact fun _ he => hm (List.cons.inj he).1
  · exact fun _ he => hp (List.cons.inj he).1

lemma IsYear.year? (hy : IsYear s year) (hr : EndsNumber rest) :
    Calendar.year? (skipBlanks (s ++ rest)) = some (year, rest) := by
  obtain ⟨hnumeral, hlength⟩ := hy
  have htrimmed := isTrimmed_of_not_isBlank hnumeral.ne_nil hnumeral.not_isBlank
  rw [skipBlanks_of_head fun _ => isBlank_of_head htrimmed]
  cases hnumeral with
  | plain hne hd =>
    have hn := number?_limited hne hd (hlength hd) hr
    cases s with
    | nil => exact absurd rfl hne
    | cons c digits =>
      rw [List.cons_append] at hn ⊢
      rw [year?_of_isDigit (hd c List.mem_cons_self), hn]
      rfl
  | plus hne hd | minus hne hd =>
    rw [List.cons_append, Calendar.year?, number?_unlimited hne hd hr]
    rfl

lemma scan?_dayFirst (hd : IsShort d day) (hm : IsShort m month) (hy : IsYear y year)
    (hr : EndsNumber rest) (r : Reading) :
    dayFirst.scan? (d ++ '/' :: (m ++ '/' :: (y ++ rest))) r =
      some ({ r with day, month, year }, rest) := by
  have hslash (s : List Char) : EndsNumber ('/' :: s) := endsNumber_cons rfl
  simp only [dayFirst, Pattern.scan?, Piece.read?, Field.read?, hd.twoDigits? (hslash _),
    hm.twoDigits? (hslash _), hy.year? hr, Option.map_some, Option.bind_some, if_true]

lemma scan?_yearFirst (hd : IsShort d day) (hm : IsShort m month) (hy : IsYear y year)
    (hr : EndsNumber rest) (r : Reading) :
    yearFirst.scan? (y ++ '-' :: (m ++ '-' :: (d ++ rest))) r =
      some ({ r with year, month, day }, rest) := by
  have hhyphen (s : List Char) : EndsNumber ('-' :: s) := endsNumber_cons rfl
  simp only [yearFirst, Pattern.scan?, Piece.read?, Field.read?, hy.year? (hhyphen _),
    hm.twoDigits? (hhyphen _), hd.twoDigits? hr, Option.map_some, Option.bind_some, if_true]

lemma scan?_hourMinute (hh : IsShort h hour) (hmi : IsShort mi minute) (hr : EndsNumber rest)
    (r : Reading) : hourMinute.scan? (h ++ ':' :: (mi ++ rest)) r =
      some ({ r with hour, minute }, rest) := by
  have hcolon (s : List Char) : EndsNumber (':' :: s) := endsNumber_cons rfl
  simp only [hourMinute, Pattern.scan?, Piece.read?, Field.read?, hh.twoDigits? (hcolon _),
    hmi.twoDigits? hr, Option.map_some, Option.bind_some, if_true]

lemma scan?_hourMinuteSecond (hh : IsShort h hour) (hmi : IsShort mi minute)
    (hs : IsShort s second) (hr : EndsNumber rest) (r : Reading) :
    hourMinuteSecond.scan? (h ++ ':' :: (mi ++ ':' :: (s ++ rest))) r =
      some ({ r with hour, minute, second }, rest) := by
  rw [hourMinuteSecond, Pattern.scan?_append (scan?_hourMinute hh hmi (endsNumber_cons rfl) r)]
  simp only [Pattern.scan?, Piece.read?, Field.read?, hs.twoDigits? hr, Option.map_some,
    Option.bind_some, if_true]

lemma scan?_blanks (h : IsTrimmed s) (rest : List Char) (r : Reading) :
    Pattern.scan? [.blanks] (' ' :: (s ++ rest)) r = some (r, s ++ rest) := by
  have hblank : skipBlanks (' ' :: (s ++ rest)) = skipBlanks (s ++ rest) :=
    List.dropWhile_cons_of_pos (by decide)
  simp only [Pattern.scan?, Piece.read?, hblank, skipBlanks_of_head fun _ => isBlank_of_head h,
    Option.bind_some]

lemma scan?_char (c : Char) (rest : List Char) (r : Reading) :
    Pattern.scan? [.char c] (c :: rest) r = some (r, rest) := by
  simp only [Pattern.scan?, Piece.read?, if_true, Option.bind_some]

def dayFirstText (d m y h mi s : List Char) : List Char :=
  d ++ '/' :: m ++ '/' :: y ++ ' ' :: h ++ ':' :: mi ++ ':' :: s

lemma isTrimmed_dayFirstText (hd : IsShort d day) (hs : IsShort s second) :
    IsTrimmed (dayFirstText d m y h mi s) := by
  have htext : dayFirstText d m y h mi s =
      d ++ ('/' :: m ++ '/' :: y ++ ' ' :: h ++ ':' :: mi ++ [':']) ++ s := by
    simp [dayFirstText]
  rw [htext]
  exact hd.isTrimmed.between hs.isTrimmed _

lemma read?_dayFirstText (hd : IsShort d day) (hm : IsShort m month) (hy : IsYear y year)
    (hh : IsShort h hour) (hmi : IsShort mi minute) (hs : IsShort s second) :
    canonicalPattern.read? (dayFirstText d m y h mi s) {} =
      some ⟨year, month, day, hour, minute, second, 0⟩ := by
  have htext : dayFirstText d m y h mi s =
      d ++ '/' :: (m ++ '/' :: (y ++ ' ' :: (h ++ ':' :: (mi ++ ':' :: (s ++ []))))) := by
    simp [dayFirstText]
  rw [htext, Pattern.read?_eq_some_iff, canonicalPattern, List.append_assoc,
    Pattern.scan?_append (scan?_dayFirst hd hm hy (endsNumber_cons rfl) _),
    Pattern.scan?_append (scan?_blanks hh.isTrimmed _ _)]
  exact scan?_hourMinuteSecond hh hmi hs endsNumber_nil _

end TierRelay.Calendar
