import TierRelay.Proofs.StableSort
import TierRelay.Record.Store

namespace TierRelay

open Calendar StableSort

namespace Stored

lemma notAfter_iff {a b : Stored} : notAfter a b ↔
    ∀ s, a.insertedAt = some s → ∃ t, b.insertedAt = some t ∧ s ≤ t := by
  rcases a with ⟨_ | s, _⟩ <;> rcases b with ⟨_ | t, _⟩ <;> simp [notAfter]

lemma isTotalPreorder_notAfter : IsTotalPreorder notAfter where
  trans a b c hab hbc := by
    rw [notAfter_iff] at hab hbc ⊢
    intro s hs
    obtain ⟨t, ht, hst⟩ := hab s hs
    obtain ⟨u, hu, htu⟩ := hbc t ht
    exact ⟨u, hu, Int.le_trans hst htu⟩
  total a b := by
    rw [Bool.or_eq_true, notAfter_iff, notAfter_iff]
    rcases a with ⟨_ | s, _⟩ <;> rcases b with ⟨_ | t, _⟩ <;> simp
    exact Int.le_total s.rank t.rank

end Stored

namespace Store

inductive Change
  | insert (kind : RecordKind) (record : Json)
  | extend (kind : RecordKind) (records : List Json)

namespace Change

def apply (s : Store) : Change → Store
  | insert kind record => s.insert kind record
  | extend kind records => s.extend kind records

def givenFor (kind : RecordKind) : Change → List Json
  | insert k record => if k = kind then [record] else []
  | extend k records => if k = kind then records else []

end Change

def run (changes : List Change) : Store :=
  changes.foldl Change.apply empty

def given (changes : List Change) (kind : RecordKind) : List Stored :=
  (changes.flatMap (Change.givenFor kind)).map Stored.ofRecord

def wanted (changes : List Change) (kind : RecordKind) (first last : DateTime) : List Stored :=
  ((given changes kind).filter (Stored.isWithin first last)).mergeSort Stored.notAfter

variable {s : Store} {kind : RecordKind} {before : List Stored}

lemma get_extend (h : s.get kind = before.mergeSort Stored.notAfter) (k : RecordKind)
    (records : List Json) : (s.extend k records).get kind =
      (before ++ (if k = kind then records else []).map Stored.ofRecord).mergeSort
        Stored.notAfter := by
  rw [extend]
  by_cases hk : k = kind
  · subst hk
    rw [PerKind.get_set_self, h, if_pos rfl,
      mergeSort_append_of_mergeSort Stored.isTotalPreorder_notAfter]
  · rw [PerKind.get_set_of_ne _ (Ne.symm hk), h, if_neg hk, List.map_nil, List.append_nil]

lemma get_apply (h : s.get kind = before.mergeSort Stored.notAfter) (c : Change) :
    (c.apply s).get kind =
      (before ++ (c.givenFor kind).map Stored.ofRecord).mergeSort Stored.notAfter := by
  cases c with
  | insert k record => exact get_extend h k [record]
  | extend k records => exact get_extend h k records

lemma get_foldl_apply (h : s.get kind = before.mergeSort Stored.notAfter)
    (changes : List Change) : (changes.foldl Change.apply s).get kind =
      (before ++ given changes kind).mergeSort Stored.notAfter := by
  induction changes generalizing s before with
  | nil => rw [List.foldl_nil, h, given, List.flatMap_nil, List.map_nil, List.append_nil]
  | cons c changes ih =>
    rw [List.foldl_cons, ih (get_apply h c), List.append_assoc, given, given, List.flatMap_cons,
      List.map_append]

lemma get_run (changes : List Change) (kind : RecordKind) :
    (run changes).get kind = (given changes kind).mergeSort Stored.notAfter := by
  have hempty : empty.get kind = [].mergeSort Stored.notAfter := by
    rw [List.mergeSort_nil]
    cases kind <;> rfl
  exact get_foldl_apply hempty changes

lemma within_run (changes : List Change) (kind : RecordKind) (first last : DateTime) :
    (run changes).within kind first last = wanted changes kind first last := by
  rw [within, get_run, filter_mergeSort Stored.isTotalPreorder_notAfter, wanted]

end Store

end TierRelay
