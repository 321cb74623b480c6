import Mathlib

namespace TierRelay.NamedValues

variable {α : Type} {l : List (String × α)} {m : String × α}

lemma lookup_cons (name : String) (m : String × α) (l : List (String × α)) :
    (m :: l).lookup name = if name = m.1 then some m.2 else l.lookup name := by
  rw [List.lookup_cons]
  by_cases h : name = m.1
  · rw [if_pos h, beq_iff_eq.mpr h]
  · rw [if_neg h, beq_eq_false_iff_ne.mpr h]

lemma lookup_eq_head? (name : String) (l : List (String × α)) :
    l.lookup name = ((l.filter fun m => m.1 = name).map Prod.snd).head? := by
  induction l with
  | nil => rfl
  | cons m l ih =>
    rw [lookup_cons, ih]
    by_cases h : name = m.1
    · simp [h]
    · simp [h, Ne.symm h]

lemma filter_eq_singleton (h : (l.map Prod.fst).Nodup) (hm : m ∈ l) :
    (l.filter fun other => other.1 = m.1) = [m] := by
  induction l with
  | nil => cases hm
  | cons first l ih =>
    rw [List.map_cons, List.nodup_cons] at h
    rcases List.mem_cons.mp hm with rfl | hm
    · have hothers : (l.filter fun other => other.1 = m.1) = [] := by
        refine List.filter_eq_nil_iff.mpr fun other hother hsame => h.1 ?_
        rw [← of_decide_eq_true hsame]
        exact List.mem_map_of_mem hother
      rw [List.filter_cons_of_pos (by simp), hothers]
    · have hname : first.1 ≠ m.1 := fun hsame => h.1 (hsame ▸ List.mem_map_of_mem hm)
      rw [List.filter_cons_of_neg (by simpa using hname), ih h.2 hm]

lemma lookup_eq_some_of_mem (h : (l.map Prod.fst).Nodup) (hm : m ∈ l) :
    l.lookup m.1 = some m.2 := by
  rw [lookup_eq_head?, filter_eq_singleton h hm]
  rfl

end TierRelay.NamedValues
