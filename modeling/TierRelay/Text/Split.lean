namespace TierRelay.Text

variable {α : Type} [DecidableEq α]

def before (separator : α) (s : List α) : List α :=
  s.takeWhile (· ≠ separator)

def after? (separator : α) (s : List α) : Option (List α) :=
  match s.dropWhile (· ≠ separator) with
  | [] => none
  | _ :: rest => some rest

def parts (separator : α) : List α → List (List α)
  | [] => [[]]
  | a :: rest =>
    if a = separator then [] :: parts separator rest
    else match parts separator rest with
      | [] => [[a]]
      | part :: others => (a :: part) :: others

theorem parts_ne_nil (separator : α) (s : List α) : parts separator s ≠ [] := by
  cases s with
  | nil => exact List.cons_ne_nil _ _
  | cons a rest =>
    rw [parts]
    split
    · exact List.cons_ne_nil _ _
    · split
      · exact List.cons_ne_nil _ _
      · exact List.cons_ne_nil _ _

theorem parts_of_not_mem {separator : α} {s : List α} (h : separator ∉ s) :
    parts separator s = [s] := by
  induction s with
  | nil => rfl
  | cons a rest ih =>
    rw [List.mem_cons, not_or] at h
    rw [parts, if_neg (Ne.symm h.1), ih h.2]

theorem before_of_not_mem {separator : α} {s : List α} (h : separator ∉ s) :
    before separator s = s := by
  induction s with
  | nil => rfl
  | cons a s ih =>
    rw [List.mem_cons, not_or] at h
    have := ih h.2
    simp only [before] at this ⊢
    rw [List.takeWhile_cons_of_pos (by simpa using Ne.symm h.1), this]

theorem after?_of_not_mem {separator : α} {s : List α} (h : separator ∉ s) :
    after? separator s = none := by
  induction s with
  | nil => rfl
  | cons a s ih =>
    rw [List.mem_cons, not_or] at h
    have := ih h.2
    simp only [after?] at this ⊢
    rwa [List.dropWhile_cons_of_pos (by simpa using Ne.symm h.1)]

theorem before_append {separator : α} {s : List α} (h : separator ∉ s) (rest : List α) :
    before separator (s ++ separator :: rest) = s := by
  induction s with
  | nil => simp [before]
  | cons a s ih =>
    rw [List.mem_cons, not_or] at h
    have := ih h.2
    simp only [before] at this ⊢
    rw [List.cons_append, List.takeWhile_cons_of_pos (by simpa using Ne.symm h.1), this]

theorem after?_append {separator : α} {s : List α} (h : separator ∉ s) (rest : List α) :
    after? separator (s ++ separator :: rest) = some rest := by
  induction s with
  | nil => simp [after?]
  | cons a s ih =>
    rw [List.mem_cons, not_or] at h
    have := ih h.2
    simp only [after?] at this ⊢
    rwa [List.cons_append, List.dropWhile_cons_of_pos (by simpa using Ne.symm h.1)]

end TierRelay.Text
