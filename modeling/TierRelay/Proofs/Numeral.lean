import TierRelay.Calendar.Pattern
import TierRelay.Proofs.Blanks
import TierRelay.Query.Pagination

namespace TierRelay.Text

section

variable {α : Type} {p : α → Bool} {tail : List α}

lemma takeWhile_append_of_head (h : ∀ a, tail.head? = some a → p a = false) (s : List α) :
    (s ++ tail).takeWhile p = s.takeWhile p := by
  induction s with
  | nil =>
    cases tail with
    | nil => rfl
    | cons a tail => exact List.takeWhile_cons_of_neg (by simp [h a rfl])
  | cons b s ih => rw [List.cons_append, List.takeWhile_cons, List.takeWhile_cons, ih]

lemma dropWhile_append_of_head (h : ∀ a, tail.head? = some a → p a = false) (s : List α) :
    (s ++ tail).dropWhile p = s.dropWhile p ++ tail := by
  induction s with
  | nil =>
    cases tail with
    | nil => rfl
    | cons a tail => exact List.dropWhile_cons_of_neg (by simp [h a rfl])
  | cons b s ih =>
    rw [List.cons_append, List.dropWhile_cons, List.dropWhile_cons, ih]
    split
    · rfl
    · rfl

end

lemma isDigit_of_mem_decimal {n : Nat} {c : Char} (h : c ∈ decimal n) : c.isDigit = true :=
  Nat.isDigit_of_mem_toDigits (by decide) (by decide) h

lemma isDigit_of_mem_padded {width n : Nat} {c : Char} (h : c ∈ padded width n) :
    c.isDigit = true := by
  rcases List.mem_append.mp h with hz | hd
  · rw [List.eq_of_mem_replicate hz]
    decide
  · exact isDigit_of_mem_decimal hd

lemma padded_ne_nil (width n : Nat) : padded width n ≠ [] := by
  simp [padded, decimal_ne_nil]

lemma length_padded {width n : Nat} (hw : 0 < width) (h : n < 10 ^ width) :
    (padded width n).length = width := by
  have := (Nat.length_toDigits_le_iff (by decide) hw).mpr h
  simp only [padded, decimal, List.length_append, List.length_replicate]
  omega

lemma decimalValue_padded (width n : Nat) : decimalValue (padded width n) = n := by
  rw [decimalValue, padded, Nat.ofDigitChars_append, Nat.ofDigitChars_replicate_zero, Nat.mul_zero]
  exact decimalValue_decimal n

lemma leadingDigits_unlimited {digits rest : List Char} (h : ∀ c ∈ digits, c.isDigit = true)
    (hr : ∀ c, rest.head? = some c → c.isDigit = false) :
    leadingDigits none (digits ++ rest) = digits := by
  rw [leadingDigits, takeWhile_append_of_head hr, List.takeWhile_eq_self_iff.mpr h]

inductive IsNumeral : List Char → Int → Prop
  | plain {digits : List Char} : digits ≠ [] → (∀ c ∈ digits, c.isDigit = true) →
      IsNumeral digits (decimalValue digits)
  | plus {digits : List Char} : digits ≠ [] → (∀ c ∈ digits, c.isDigit = true) →
      IsNumeral ('+' :: digits) (decimalValue digits)
  | minus {digits : List Char} : digits ≠ [] → (∀ c ∈ digits, c.isDigit = true) →
      IsNumeral ('-' :: digits) (-(decimalValue digits : Int))

variable {s digits : List Char} {n : Int}

lemma natural?_eq_some {value : Nat} : natural? s = some value ↔
    s ≠ [] ∧ (∀ c ∈ s, c.isDigit = true) ∧ decimalValue s = value := by
  rw [natural?, Option.ite_none_right_eq_some, Option.some.injEq, List.all_eq_true, and_assoc]

lemma integer?_of_isDigit (hne : digits ≠ []) (hd : ∀ c ∈ digits, c.isDigit = true) :
    integer? digits = some (decimalValue digits : Int) := by
  have hnat : natural? digits = some (decimalValue digits) := natural?_eq_some.mpr ⟨hne, hd, rfl⟩
  rw [integer?]
  · rw [hnat]
    rfl
  · rintro rest rfl
    exact absurd (hd '-' List.mem_cons_self) (by decide)
  · rintro rest rfl
    exact absurd (hd '+' List.mem_cons_self) (by decide)

lemma integer?_eq_some_iff : integer? s = some n ↔ IsNumeral s n := by
  constructor
  · intro h
    rw [integer?.eq_def] at h
    split at h
    all_goals
      simp only [Option.map_eq_some_iff, Option.bind_eq_bind, Option.bind_eq_some_iff,
        Option.pure_def, Option.some.injEq] at h
      obtain ⟨_, ⟨value, hvalue, rfl⟩, rfl⟩ := h
      obtain ⟨hne, hd, rfl⟩ := natural?_eq_some.mp hvalue
    · exact .minus hne hd
    · exact .plus hne hd
    · exact .plain hne hd
  · intro h
    cases h with
    | plain hne hd => exact integer?_of_isDigit hne hd
    | plus hne hd =>
      rw [integer?, natural?_eq_some.mpr ⟨hne, hd, rfl⟩]
      rfl
    | minus hne hd =>
      rw [integer?, natural?_eq_some.mpr ⟨hne, hd, rfl⟩]
      rfl

lemma IsNumeral.ne_nil (h : IsNumeral s n) : s ≠ [] := by
  cases h with
  | plain hne _ => exact hne
  | plus | minus => exact List.cons_ne_nil _ _

lemma IsNumeral.not_isBlank (h : IsNumeral s n) : ∀ c ∈ s, isBlank c = false := by
  cases h with
  | plain _ hd => exact fun c hc => isBlank_of_isDigit (hd c hc)
  | plus _ hd | minus _ hd =>
    intro c hc
    rcases List.mem_cons.mp hc with rfl | hc
    · decide
    · exact isBlank_of_isDigit (hd c hc)

lemma integer?_decimal (n : Nat) : integer? (decimal n) = some (n : Int) := by
  rw [integer?_of_isDigit (decimal_ne_nil n) fun _ => isDigit_of_mem_decimal, decimalValue_decimal]

end TierRelay.Text

namespace TierRelay.Calendar

open TierRelay.Text

lemma number?_eq_some {most : Option Nat} {digits rest : List Char} (hd : digits ≠ [])
    (h : leadingDigits most (digits ++ rest) = digits) :
    number? most (digits ++ rest) = some (decimalValue digits, rest) := by
  rw [number?, h]
  cases digits with
  | nil => exact absurd rfl hd
  | cons c digits => simp

end TierRelay.Calendar
