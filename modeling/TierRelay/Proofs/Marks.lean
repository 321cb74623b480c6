import TierRelay.Proofs.WrittenFields

/-!
The marks of a text are what stands between its numbers. A pattern takes no text with other marks
than its own.
-/

namespace TierRelay.Calendar

open TierRelay.Text

/-- A hyphen is no mark, because it may be the sign of a year. -/
def isMark (c : Char) : Bool :=
  c ∈ ['/', ':', 'T', 'Z', 'z']

def marks (s : List Char) : List Char :=
  s.filter isMark

lemma isMark_of_isDigit {c : Char} (h : c.isDigit = true) : isMark c = false := by
  have hmarks : ∀ m ∈ ['/', ':', 'T', 'Z', 'z'], m.isDigit = false := by simp
  rw [isMark, decide_eq_false_iff_not]
  intro hc
  rw [hmarks c hc] at h
  cases h

lemma isMark_of_isBlank {c : Char} (h : isBlank c = true) : isMark c = false := by
  have hmarks : ∀ m ∈ ['/', ':', 'T', 'Z', 'z'], isBlank m = false := by
    simp [isBlank, blankRuns]
  rw [isMark, decide_eq_false_iff_not]
  intro hc
  rw [hmarks c hc] at h
  cases h

lemma marks_append (s rest : List Char) : marks (s ++ rest) = marks s ++ marks rest :=
  List.filter_append s rest

lemma marks_eq_nil {s : List Char} (h : ∀ c ∈ s, isMark c = false) : marks s = [] := by
  rw [marks, List.filter_eq_nil_iff]
  intro c hc
  rw [h c hc]
  exact Bool.false_ne_true

lemma marks_skipBlanks (s : List Char) : marks s = marks (skipBlanks s) := by
  have hblank : marks (s.takeWhile isBlank) = [] :=
    marks_eq_nil fun _ hc => isMark_of_isBlank (List.mem_takeWhile_imp hc)
  calc marks s = marks (s.takeWhile isBlank ++ skipBlanks s) := by
        rw [skipBlanks, List.takeWhile_append_dropWhile]
    _ = marks (skipBlanks s) := by rw [marks_append, hblank, List.nil_append]

lemma isPrefix_leadingDigits (most : Option Nat) (s : List Char) : leadingDigits most s <+: s := by
  cases most with
  | none => exact List.takeWhile_prefix _
  | some width => exact (List.take_prefix width _).trans (List.takeWhile_prefix _)

lemma isDigit_of_mem_leadingDigits {most : Option Nat} {s : List Char} {c : Char}
    (h : c ∈ leadingDigits most s) : c.isDigit = true := by
  cases most with
  | none => exact List.mem_takeWhile_imp h
  | some width => exact List.mem_takeWhile_imp (List.mem_of_mem_take h)

lemma marks_drop_leadingDigits (most : Option Nat) (s : List Char) :
    marks s = marks (s.drop (leadingDigits most s).length) := by
  have hs := List.prefix_iff_eq_append.mp (isPrefix_leadingDigits most s)
  have hdigits : marks (leadingDigits most s) = [] :=
    marks_eq_nil fun _ hc => isMark_of_isDigit (isDigit_of_mem_leadingDigits hc)
  conv_lhs => rw [← hs, marks_append, hdigits, List.nil_append]

variable {s rest : List Char}

lemma marks_of_number? {most : Option Nat} {n : Nat} (h : number? most s = some (n, rest)) :
    marks s = marks rest := by
  rw [number?] at h
  split at h
  · cases h
  · cases h
    exact marks_drop_leadingDigits most s

lemma marks_of_twoDigits? {n : Nat} (h : twoDigits? s = some (n, rest)) : marks s = marks rest := by
  rw [marks_skipBlanks, marks_of_number? h]

lemma marks_of_year? {n : Int} (h : year? s = some (n, rest)) : marks s = marks rest := by
  rw [year?.eq_def] at h
  split at h
  all_goals
    obtain ⟨⟨m, rest'⟩, hm, heq⟩ := Option.map_eq_some_iff.mp h
    cases heq
    rw [← marks_of_number? hm]
  · rfl
  · rfl

lemma marks_of_fraction? {n : Nat} (h : fraction? s = some (n, rest)) : marks s = marks rest := by
  rw [fraction?.eq_def] at h
  split at h
  · split at h
    · cases h
    · cases h
      rw [← marks_drop_leadingDigits]
      rfl
  · cases h
    rfl

lemma marks_of_field {f : Field} {r r' : Reading} (h : f.read? s r = some (r', rest)) :
    marks s = marks rest := by
  cases f with
  | year =>
    obtain ⟨⟨n, rest'⟩, hn, heq⟩ := Option.map_eq_some_iff.mp h
    cases heq
    rw [marks_skipBlanks, marks_of_year? hn]
  | fraction =>
    obtain ⟨⟨n, rest'⟩, hn, heq⟩ := Option.map_eq_some_iff.mp h
    cases heq
    exact marks_of_fraction? hn
  | month | day | hour | minute | second =>
    obtain ⟨⟨n, rest'⟩, hn, heq⟩ := Option.map_eq_some_iff.mp h
    cases heq
    exact marks_of_twoDigits? hn

def Piece.text : Piece → List Char
  | .char c => [c]
  | .blanks => []
  | .field _ => []

def Pattern.marks (p : Pattern) : List Char :=
  Calendar.marks (p.flatMap Piece.text)

lemma marks_of_piece {p : Piece} {r r' : Reading} (h : p.read? s r = some (r', rest)) :
    marks s = marks p.text ++ marks rest := by
  cases p with
  | char c =>
    cases s with
    | nil => cases h
    | cons c' s =>
      simp only [Piece.read?, Option.ite_none_right_eq_some, Option.some.injEq] at h
      obtain ⟨rfl, heq⟩ := h
      cases heq
      exact marks_append [c] _
  | blanks =>
    cases h
    exact marks_skipBlanks s
  | field f => exact marks_of_field h

lemma marks_of_scan? {p : Pattern} {r r' : Reading} (h : p.scan? s r = some (r', rest)) :
    marks s = p.marks ++ marks rest := by
  induction p generalizing s r with
  | nil =>
    cases h
    rfl
  | cons piece p ih =>
    obtain ⟨⟨r₁, s₁⟩, h₁, h₂⟩ := Option.bind_eq_some_iff.mp h
    rw [marks_of_piece h₁, ih h₂, Pattern.marks, Pattern.marks, List.flatMap_cons, marks_append,
      List.append_assoc]

lemma Pattern.marks_of_read? {p : Pattern} {r r' : Reading} (h : p.read? s r = some r') :
    Calendar.marks s = p.marks := by
  rw [marks_of_scan? (read?_eq_some_iff.mp h)]
  exact List.append_nil _

lemma Pattern.marks_of_recognise {p : Pattern} {t : DateTime} (h : p.recognise s = some t) :
    Calendar.marks s = p.marks := by
  obtain ⟨r, hr, _⟩ := Option.bind_eq_some_iff.mp h
  exact p.marks_of_read? hr

namespace Rfc3339

lemma marks_of_digits? {count n : Nat} (h : digits? count s = some (n, rest)) :
    marks s = marks rest := by
  simp only [digits?, Option.ite_none_right_eq_some, Option.some.injEq] at h
  obtain ⟨⟨_, hdigits⟩, heq⟩ := h
  cases heq
  have hnone : marks (s.take count) = [] :=
    marks_eq_nil fun _ hc => isMark_of_isDigit (List.all_eq_true.mp hdigits _ hc)
  conv_lhs => rw [← List.take_append_drop count s, marks_append, hnone, List.nil_append]

lemma exists_of_char? {accepted : List Char} (h : char? accepted s = some rest) :
    ∃ c ∈ accepted, s = c :: rest := by
  cases s with
  | nil => cases h
  | cons c s =>
    simp only [char?, Option.ite_none_right_eq_some, Option.some.injEq] at h
    obtain ⟨hc, rfl⟩ := h
    exact ⟨c, hc, rfl⟩

lemma marks_of_char? {c : Char} (h : char? [c] s = some rest) :
    marks s = marks [c] ++ marks rest := by
  obtain ⟨c', hc, rfl⟩ := exists_of_char? h
  rw [List.mem_singleton.mp hc]
  exact marks_append [c] rest

lemma marks_of_offset? {n : Int} (h : offset? s = some (n, rest)) :
    ∃ zone ∈ [':', 'Z', 'z'], marks s = zone :: marks rest := by
  cases s with
  | nil => cases h
  | cons c s =>
    rw [offset?] at h
    split at h
    · next hzulu =>
      cases h
      rcases hzulu with rfl | rfl
      · exact ⟨'Z', by simp, rfl⟩
      · exact ⟨'z', by simp, rfl⟩
    · have hsign : c = '+' ∨ c = '-' ∨ c = '\u2212' := by
        by_contra hne
        obtain ⟨hplus, hminus⟩ := not_or.mp hne
        rw [if_neg hplus, if_neg hminus] at h
        cases h
      have hmark : isMark c = false := by
        rcases hsign with rfl | rfl | rfl <;> simp [isMark]
      split at h
      on_goal 2 => split at h
      on_goal 3 => cases h
      all_goals
        obtain ⟨_, _, h⟩ := Option.bind_eq_some_iff.mp h
        obtain ⟨⟨hours, s₁⟩, h₁, h⟩ := Option.bind_eq_some_iff.mp h
        obtain ⟨s₂, h₂, h⟩ := Option.bind_eq_some_iff.mp h
        obtain ⟨⟨minutes, s₃⟩, h₃, h⟩ := Option.bind_eq_some_iff.mp h
        simp only [Option.ite_none_right_eq_some] at h
        obtain ⟨_, heq⟩ := h
        cases heq
        have hs : marks s = ':' :: marks rest := by
          rw [marks_of_digits? h₁, marks_of_char? h₂, marks_of_digits? h₃]
          rfl
        refine ⟨':', by simp, ?_⟩
        rw [← hs]
        exact List.filter_cons_of_neg (by rw [hmark]; exact Bool.false_ne_true)

def zonedMarks : List (List Char) :=
  [':', 'Z', 'z'].map fun zone => [':', ':', zone]

lemma marks_of_recognise {t : DateTime} (h : recognise s = some t) :
    ∃ zoned ∈ zonedMarks, zoned <:+ marks s := by
  unfold recognise at h
  obtain ⟨⟨year, s₁⟩, h₁, h⟩ := Option.bind_eq_some_iff.mp h
  obtain ⟨s₂, h₂, h⟩ := Option.bind_eq_some_iff.mp h
  obtain ⟨⟨month, s₃⟩, h₃, h⟩ := Option.bind_eq_some_iff.mp h
  obtain ⟨s₄, h₄, h⟩ := Option.bind_eq_some_iff.mp h
  obtain ⟨⟨day, s₅⟩, h₅, h⟩ := Option.bind_eq_some_iff.mp h
  obtain ⟨s₆, h₆, h⟩ := Option.bind_eq_some_iff.mp h
  obtain ⟨⟨hour, s₇⟩, h₇, h⟩ := Option.bind_eq_some_iff.mp h
  obtain ⟨s₈, h₈, h⟩ := Option.bind_eq_some_iff.mp h
  obtain ⟨⟨minute, s₉⟩, h₉, h⟩ := Option.bind_eq_some_iff.mp h
  obtain ⟨s₁₀, h₁₀, h⟩ := Option.bind_eq_some_iff.mp h
  obtain ⟨⟨second, s₁₁⟩, h₁₁, h⟩ := Option.bind_eq_some_iff.mp h
  obtain ⟨⟨nanos, s₁₂⟩, h₁₂, h⟩ := Option.bind_eq_some_iff.mp h
  obtain ⟨⟨offset, s₁₃⟩, h₁₃, h⟩ := Option.bind_eq_some_iff.mp h
  have hend : s₁₃ = [] := by
    by_contra hne
    dsimp only at h
    rw [if_pos hne] at h
    cases h
  obtain ⟨zone, hzone, hmarks⟩ := marks_of_offset? h₁₃
  have htime : marks s₆ = [':', ':', zone] := by
    rw [marks_of_digits? h₇, marks_of_char? h₈, marks_of_digits? h₉, marks_of_char? h₁₀,
      marks_of_digits? h₁₁, marks_of_fraction? h₁₂, hmarks, hend]
    rfl
  have hdate : marks s = marks s₅ := by
    rw [marks_of_digits? h₁, marks_of_char? h₂, marks_of_digits? h₃, marks_of_char? h₄,
      marks_of_digits? h₅]
    rfl
  obtain ⟨separator, _, rfl⟩ := exists_of_char? h₆
  refine ⟨[':', ':', zone], List.mem_map.mpr ⟨zone, hzone, rfl⟩, marks [separator], ?_⟩
  rw [hdate, ← htime]
  exact (marks_append [separator] s₆).symm

end Rfc3339

end TierRelay.Calendar
