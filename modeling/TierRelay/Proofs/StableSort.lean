import Mathlib

/-!
A sorted list is determined by its classes of tied elements, each in its order, and `List.mergeSort`
keeps these; so sorting may be repeated, and filtering may come before it or after it.
-/

namespace TierRelay.StableSort

variable {α : Type} {le : α → α → Bool}

def tied (le : α → α → Bool) (a b : α) : Bool :=
  le a b && le b a

structure IsTotalPreorder (le : α → α → Bool) : Prop where
  trans : ∀ a b c, le a b → le b c → le a c
  total : ∀ a b, le a b || le b a

lemma IsTotalPreorder.refl (h : IsTotalPreorder le) (a : α) : le a a := by
  simpa using h.total a a

lemma IsTotalPreorder.tied_self (h : IsTotalPreorder le) (a : α) : tied le a a := by
  rw [tied, h.refl a, Bool.and_self]

lemma IsTotalPreorder.pairwise_filter_tied (h : IsTotalPreorder le) (a : α) (l : List α) :
    (l.filter (tied le a)).Pairwise (le · ·) := by
  rw [List.pairwise_iff_forall_sublist]
  intro b c hbc
  have hb := List.of_mem_filter (hbc.subset List.mem_cons_self)
  have hc := List.of_mem_filter (hbc.subset (List.mem_cons_of_mem b List.mem_cons_self))
  simp only [tied, Bool.and_eq_true] at hb hc
  exact h.trans b a c hb.2 hc.1

lemma mem_of_filter_tied (h : IsTotalPreorder le) {l₁ l₂ : List α}
    (htied : ∀ a, l₁.filter (tied le a) = l₂.filter (tied le a)) {a : α} (ha : a ∈ l₁) :
    a ∈ l₂ := by
  have hm : a ∈ l₁.filter (tied le a) := List.mem_filter.mpr ⟨ha, h.tied_self a⟩
  rw [htied a] at hm
  exact List.mem_of_mem_filter hm

lemma le_of_mem_cons (h : IsTotalPreorder le) {a b : α} {l : List α}
    (hl : (a :: l).Pairwise (le · ·)) (hb : b ∈ a :: l) : le a b := by
  rcases List.mem_cons.mp hb with rfl | hb
  · exact h.refl b
  · exact List.rel_of_pairwise_cons hl hb

lemma eq_of_filter_tied (h : IsTotalPreorder le) {l₁ l₂ : List α} (h₁ : l₁.Pairwise (le · ·))
    (h₂ : l₂.Pairwise (le · ·))
    (htied : ∀ a, l₁.filter (tied le a) = l₂.filter (tied le a)) : l₁ = l₂ := by
  induction l₁ generalizing l₂ with
  | nil =>
    cases l₂ with
    | nil => rfl
    | cons b l₂ =>
      have hb : b ∈ [] := mem_of_filter_tied h (fun a => (htied a).symm) List.mem_cons_self
      cases hb
  | cons a l₁ ih =>
    cases l₂ with
    | nil =>
      have ha : a ∈ [] := mem_of_filter_tied h htied List.mem_cons_self
      cases ha
    | cons b l₂ =>
      have hba := le_of_mem_cons h h₂ (mem_of_filter_tied h htied List.mem_cons_self)
      have hab := le_of_mem_cons h h₁
        (mem_of_filter_tied h (fun a => (htied a).symm) List.mem_cons_self)
      have heq : a = b := by
        have := htied a
        rw [List.filter_cons_of_pos (h.tied_self a),
          List.filter_cons_of_pos (by rw [tied, hab, hba, Bool.and_self])] at this
        exact (List.cons.inj this).1
      subst heq
      congr 1
      apply ih h₁.of_cons h₂.of_cons
      intro c
      have := htied c
      by_cases hc : tied le c a
      · rw [List.filter_cons_of_pos hc, List.filter_cons_of_pos hc] at this
        exact (List.cons.inj this).2
      · rwa [List.filter_cons_of_neg hc, List.filter_cons_of_neg hc] at this

lemma filter_tied_mergeSort (h : IsTotalPreorder le) (a : α) (l : List α) :
    (l.mergeSort le).filter (tied le a) = l.filter (tied le a) := by
  have hkept : List.Sublist (l.filter (tied le a)) (l.mergeSort le) :=
    List.sublist_mergeSort h.trans h.total (h.pairwise_filter_tied a l) List.filter_sublist
  have hsub := hkept.filter (tied le a)
  rw [List.filter_filter] at hsub
  simp only [Bool.and_self] at hsub
  exact (hsub.eq_of_length ((List.mergeSort_perm l le).filter _).length_eq.symm).symm

lemma eq_mergeSort (h : IsTotalPreorder le) {l sorted : List α} (hs : sorted.Pairwise (le · ·))
    (htied : ∀ a, sorted.filter (tied le a) = l.filter (tied le a)) : sorted = l.mergeSort le := by
  apply eq_of_filter_tied h hs (List.pairwise_mergeSort h.trans h.total l)
  intro a
  rw [htied, filter_tied_mergeSort h]

lemma mergeSort_append_of_mergeSort (h : IsTotalPreorder le) (l r : List α) :
    (l.mergeSort le ++ r).mergeSort le = (l ++ r).mergeSort le := by
  apply eq_mergeSort h (List.pairwise_mergeSort h.trans h.total _)
  intro a
  rw [filter_tied_mergeSort h, List.filter_append, filter_tied_mergeSort h, List.filter_append]

lemma filter_mergeSort (h : IsTotalPreorder le) (p : α → Bool) (l : List α) :
    (l.mergeSort le).filter p = (l.filter p).mergeSort le := by
  apply eq_mergeSort h ((List.pairwise_mergeSort h.trans h.total l).filter p)
  intro a
  rw [List.filter_comm, filter_tied_mergeSort h, List.filter_comm]

end TierRelay.StableSort
