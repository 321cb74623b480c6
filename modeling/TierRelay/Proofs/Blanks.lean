import Mathlib
import TierRelay.Text.Blank

namespace TierRelay.Text

lemma isBlank_of_isDigit {c : Char} (h : c.isDigit = true) : isBlank c = false := by
  have hc : 48 ≤ c.toNat ∧ c.toNat ≤ 57 := by
    simpa [Char.isDigit, UInt32.le_iff_toNat_le] using h
  simp [isBlank, blankRuns]
  omega

lemma skipBlanks_of_head {s : List Char} (h : ∀ c, s.head? = some c → isBlank c = false) :
    skipBlanks s = s := by
  cases s with
  | nil => rfl
  | cons c rest => exact List.dropWhile_cons_of_neg (by simp [h c rfl])

variable {s rest digits front back : List Char}

lemma exists_trim (s : List Char) : ∃ front back, s = front ++ trim s ++ back ∧
    (∀ c ∈ front, isBlank c = true) ∧ ∀ c ∈ back, isBlank c = true := by
  refine ⟨s.takeWhile isBlank, (skipBlanks s).rtakeWhile isBlank, ?_, ?_, ?_⟩
  · calc s = s.takeWhile isBlank ++ skipBlanks s := List.takeWhile_append_dropWhile.symm
      _ = s.takeWhile isBlank ++
          ((skipBlanks s).rdropWhile isBlank ++ (skipBlanks s).rtakeWhile isBlank) := by
        rw [List.rdropWhile_append_rtakeWhile]
      _ = s.takeWhile isBlank ++ trim s ++ (skipBlanks s).rtakeWhile isBlank :=
        (List.append_assoc _ _ _).symm
  · exact fun c hc => List.mem_takeWhile_imp hc
  · exact fun c hc => List.mem_rtakeWhile_imp hc

structure IsTrimmed (s : List Char) : Prop where
  ne_nil : s ≠ []
  head : ∀ c, s.head? = some c → isBlank c = false
  last : ∀ c, s.getLast? = some c → isBlank c = false

lemma isTrimmed_of_not_isBlank (hne : s ≠ []) (h : ∀ c ∈ s, isBlank c = false) : IsTrimmed s where
  ne_nil := hne
  head c hc := h c (List.mem_of_head? hc)
  last c hc := h c (List.mem_of_getLast? hc)

lemma IsTrimmed.between (hf : IsTrimmed front) (hb : IsTrimmed back)
    (inner : List Char) : IsTrimmed (front ++ inner ++ back) where
  ne_nil := List.append_ne_nil_of_right_ne_nil _ hb.ne_nil
  head c hc := by
    rw [List.append_assoc, List.head?_append_of_ne_nil _ hf.ne_nil] at hc
    exact hf.head c hc
  last c hc := by
    rw [List.getLast?_append_of_ne_nil _ hb.ne_nil] at hc
    exact hb.last c hc

lemma IsTrimmed.trim_surrounded {core : List Char} (h : IsTrimmed core)
    (hf : ∀ c ∈ front, isBlank c = true) (hb : ∀ c ∈ back, isBlank c = true) :
    trim (front ++ core ++ back) = core := by
  have hskip {blanks rest : List Char} (h : ∀ c ∈ blanks, isBlank c = true) :
      skipBlanks (blanks ++ rest) = skipBlanks rest := List.dropWhile_append_of_pos h
  have hhead {rest : List Char} : skipBlanks (core ++ rest) = core ++ rest := by
    apply skipBlanks_of_head
    intro c hcore
    rw [List.head?_append_of_ne_nil _ h.ne_nil] at hcore
    exact h.head c hcore
  have hlast : skipBlanks core.reverse = core.reverse :=
    skipBlanks_of_head (by simpa using h.last)
  rw [trim, List.append_assoc, hskip hf, hhead, List.reverse_append,
    hskip fun c h => hb c (List.mem_reverse.mp h), hlast, List.reverse_reverse]

lemma IsTrimmed.trim (h : IsTrimmed s) : Text.trim s = s := by
  rw [Text.trim, skipBlanks_of_head h.head, skipBlanks_of_head (by simpa using h.last),
    List.reverse_reverse]

lemma isTrimmed_of_isDigit (hne : digits ≠ []) (hd : ∀ c ∈ digits, c.isDigit = true) :
    IsTrimmed digits :=
  isTrimmed_of_not_isBlank hne fun c hc => isBlank_of_isDigit (hd c hc)

lemma isBlank_of_head (h : IsTrimmed s) {c : Char} (hc : (s ++ rest).head? = some c) :
    isBlank c = false := by
  rw [List.head?_append_of_ne_nil _ h.ne_nil] at hc
  exact h.head c hc

lemma isTrimmed_join (hf : IsTrimmed front) (hb : IsTrimmed back)
    (c : Char) : IsTrimmed (front ++ c :: back) := by
  have h := hf.between hb [c]
  rwa [List.append_assoc] at h

lemma isTrimmed_append (hf : IsTrimmed front) (hb : IsTrimmed back) :
    IsTrimmed (front ++ back) := by
  have h := hf.between hb []
  rwa [List.append_nil] at h

end TierRelay.Text
