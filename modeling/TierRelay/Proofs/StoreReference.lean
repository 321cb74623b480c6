import TierRelay.Proofs.StoreRuns

namespace TierRelay.Store

open Calendar StableSort

structure Dated where
  time : DateTime
  record : Json

namespace Dated

def ofRecord? (first last : DateTime) : Json → Option Dated
  | .object members =>
    match members.lookup "recordInsertDatetime" with
    | some (.string text) =>
      match DateTime.parse? text with
      | some t => if first ≤ t ∧ t ≤ last then some ⟨t, .object members⟩ else none
      | none => none
    | _ => none
  | _ => none

def notAfter (a b : Dated) : Bool :=
  a.time ≤ b.time

def stored (d : Dated) : Stored :=
  ⟨some d.time, d.record⟩

lemma isTotalPreorder_notAfter : IsTotalPreorder notAfter where
  trans a b c hab hbc := by
    simp only [notAfter, decide_eq_true_eq] at *
    exact Int.le_trans hab hbc
  total a b := by
    simp only [notAfter, Bool.or_eq_true, decide_eq_true_eq]
    exact Int.le_total a.time.rank b.time.rank

lemma tied_notAfter (a : Dated) : tied notAfter a = fun b => decide (b.time = a.time) := by
  funext b
  rw [Bool.eq_iff_iff]
  simp only [tied, notAfter, Bool.and_eq_true, decide_eq_true_eq]
  constructor
  · rintro ⟨hab, hba⟩
    exact DateTime.rank_injective (Int.le_antisymm hba hab)
  · intro h
    rw [h]
    exact ⟨Int.le_refl _, Int.le_refl _⟩

end Dated

structure IsStableSort (given sorted : List Dated) : Prop where
  ordered : sorted.Pairwise fun a b => a.time ≤ b.time
  stable : ∀ t, sorted.filter (·.time = t) = given.filter (·.time = t)

lemma isStableSort_mergeSort (l : List Dated) : IsStableSort l (l.mergeSort Dated.notAfter) where
  ordered := by
    have h := Dated.isTotalPreorder_notAfter
    apply (List.pairwise_mergeSort h.trans h.total l).imp
    intro a b hab
    exact of_decide_eq_true hab
  stable t := by
    have h := filter_tied_mergeSort Dated.isTotalPreorder_notAfter ⟨t, .null⟩ l
    rwa [Dated.tied_notAfter] at h

lemma IsStableSort.eq_mergeSort {given sorted : List Dated} (h : IsStableSort given sorted) :
    sorted = given.mergeSort Dated.notAfter := by
  apply StableSort.eq_mergeSort Dated.isTotalPreorder_notAfter
  · apply h.ordered.imp
    intro a b hab
    exact decide_eq_true hab
  · intro a
    rw [Dated.tied_notAfter]
    exact h.stable a.time

def arrived (changes : List Change) (kind : RecordKind) : List Json :=
  changes.flatMap (Change.givenFor kind)

def matching (changes : List Change) (kind : RecordKind) (first last : DateTime) : List Dated :=
  (arrived changes kind).filterMap (Dated.ofRecord? first last)

def reference (changes : List Change) (kind : RecordKind) (first last : DateTime) : List Dated :=
  (matching changes kind first last).mergeSort Dated.notAfter

lemma ofRecord?_eq (first last : DateTime) (record : Json) : Dated.ofRecord? first last record =
    (Stored.timeOf record).bind fun t =>
      if first ≤ t ∧ t ≤ last then some ⟨t, record⟩ else none := by
  cases record with
  | object members =>
    simp only [Dated.ofRecord?, Stored.timeOf, Json.member?]
    cases members.lookup "recordInsertDatetime" with
    | none => rfl
    | some value =>
      cases value with
      | string text =>
        dsimp only
        cases DateTime.parse? text with
        | none => rfl
        | some t => rfl
      | _ => rfl
  | _ => rfl

lemma map_stored_ofRecord? (first last : DateTime) (record : Json) :
    (Dated.ofRecord? first last record).map Dated.stored =
      Option.guard (Stored.isWithin first last) (Stored.ofRecord record) := by
  rw [ofRecord?_eq, Stored.ofRecord]
  cases Stored.timeOf record with
  | none => rfl
  | some t =>
    by_cases h : first ≤ t ∧ t ≤ last
    · simp [Option.guard, Stored.isWithin, h, Dated.stored]
    · simp [Option.guard, Stored.isWithin, h]

lemma filter_isWithin (first last : DateTime) (records : List Json) :
    (records.map Stored.ofRecord).filter (Stored.isWithin first last) =
      (records.filterMap (Dated.ofRecord? first last)).map Dated.stored := by
  rw [← List.filterMap_eq_filter, List.filterMap_map, List.map_filterMap]
  congr 1
  funext record
  exact (map_stored_ofRecord? first last record).symm

lemma wanted_eq (changes : List Change) (kind : RecordKind) (first last : DateTime) :
    wanted changes kind first last = (reference changes kind first last).map Dated.stored := by
  rw [wanted, given, ← arrived, filter_isWithin, ← matching, reference, List.map_mergeSort]
  intro a _ b _
  rfl

lemma length_reference (changes : List Change) (kind : RecordKind) (first last : DateTime) :
    (reference changes kind first last).length = (matching changes kind first last).length :=
  List.length_mergeSort _

lemma fetch_run (changes : List Change) (kind : RecordKind) (q : Pagination) (skip : UInt64) :
    (run changes).fetch kind q skip =
      ⟨(((reference changes kind q.startDate q.endDate).drop skip.toNat).take
          q.pageSize.toNat).map Dated.record,
        (matching changes kind q.startDate q.endDate).length⟩ := by
  rw [fetch, within_run, wanted_eq, ← List.map_drop, ← List.map_take, List.map_map, List.length_map,
    length_reference]
  rfl

lemma length_run (changes : List Change) (kind : RecordKind) :
    (run changes).length kind = (arrived changes kind).length := by
  rw [length, get_run, List.length_mergeSort, given, List.length_map, arrived]

def Change.kind : Change → RecordKind
  | insert kind _ => kind
  | extend kind _ => kind

lemma Change.givenFor_of_ne {c : Change} {kind : RecordKind} (h : c.kind ≠ kind) :
    c.givenFor kind = [] := by
  cases c with
  | insert k record => exact if_neg h
  | extend k records => exact if_neg h

lemma arrived_insert_of_ne (before after : List Change) {c : Change} {kind : RecordKind}
    (h : c.kind ≠ kind) : arrived (before ++ c :: after) kind = arrived (before ++ after) kind := by
  simp only [arrived, List.flatMap_append, List.flatMap_cons, Change.givenFor_of_ne h,
    List.nil_append]

theorem fetch_run_eq_reference (changes : List Change) (kind : RecordKind) :
    (∀ first last, IsStableSort (matching changes kind first last)
        (reference changes kind first last) ∧
      ∀ other, IsStableSort (matching changes kind first last) other →
        other = reference changes kind first last) ∧
    (∀ q skip, (run changes).fetch kind q skip =
      ⟨(((reference changes kind q.startDate q.endDate).drop skip.toNat).take
          q.pageSize.toNat).map Dated.record,
        (matching changes kind q.startDate q.endDate).length⟩) ∧
    (run changes).length kind = (arrived changes kind).length ∧
    ∀ c after, c.kind ≠ kind →
      (∀ q skip, (run (changes ++ c :: after)).fetch kind q skip =
        (run (changes ++ after)).fetch kind q skip) ∧
      (run (changes ++ c :: after)).length kind = (run (changes ++ after)).length kind := by
  refine ⟨?_, fetch_run changes kind, length_run changes kind, ?_⟩
  · intro first last
    refine ⟨isStableSort_mergeSort _, ?_⟩
    intro other h
    exact h.eq_mergeSort
  · intro c after hc
    have harrived := arrived_insert_of_ne changes after hc
    constructor
    · intro q skip
      rw [fetch_run, fetch_run, reference, reference, matching, matching, harrived]
    · rw [length_run, length_run, harrived]

theorem fetch_run_eq_reference_of_tie :
    let record (time name : String) : Json :=
      .ofMembers [("recordInsertDatetime", .string time), ("name", .string name)]
    let other : Change := .insert .profiles (record "2024-01-02" "other")
    let changes : List Change := [
      .extend .episodes [record "2024-01-03" "c", record "2024-01-02" "a", record "?" "none"],
      .insert .episodes (.string "2024-01-02")]
    let after : List Change := [.extend .episodes [record "2024-01-02" "b"]]
    let q : Pagination := ⟨1, 2, ⟨⟨2024, 1, 1, by decide⟩, Calendar.Time.midnight⟩,
      ⟨⟨2024, 1, 3, by decide⟩, Calendar.Time.midnight⟩⟩
    other.kind ≠ .episodes ∧
      (run (changes ++ other :: after)).fetch .episodes q 1 =
        ⟨[record "2024-01-02" "b", record "2024-01-03" "c"], 3⟩ ∧
      (run (changes ++ other :: after)).length .episodes = 5 := by
  intro record other changes after q
  have hkind : other.kind ≠ .episodes := by decide
  obtain ⟨_, hfetch, hlength, _⟩ := fetch_run_eq_reference (changes ++ after) .episodes
  obtain ⟨_, _, _, hother⟩ := fetch_run_eq_reference changes .episodes
  obtain ⟨hfetch', hlength'⟩ := hother other after hkind
  refine ⟨hkind, ?_, ?_⟩
  · rw [hfetch', hfetch]
    have hmatching : (matching (changes ++ after) .episodes q.startDate q.endDate).length = 3 := by
      cbv
    have hitems : (((reference (changes ++ after) .episodes q.startDate q.endDate).drop 1).take
        2).map Dated.record = [record "2024-01-02" "b", record "2024-01-03" "c"] := by cbv
    rw [hmatching]
    congr 1
  · rw [hlength', hlength]
    rfl

end TierRelay.Store
