import TierRelay.Proofs.PageParameters
import TierRelay.Proofs.StoreRuns
import TierRelay.Record.Page

/-!
The offset, the slice, the number of pages and the sign that more follows are computed apart; the
lemmas here bring each of them to the place of the page in the list of matching records.
-/

namespace TierRelay

lemma ne_zero_of_one_le {n : UInt32} (h : 1 ≤ n.toNat) : n ≠ 0 := by
  rintro rfl
  exact absurd h (by decide)

namespace Pagination

def onPage (q : Pagination) (n : UInt32) : Pagination :=
  { q with page := n }

/-- The product of two words of half the size fits, so the offset is the exact one. -/
lemma rowsToSkip_eq {q : Pagination} (h : 1 ≤ q.page.toNat) :
    ∃ skip, q.rowsToSkip = .ok skip ∧ skip.toNat = (q.page.toNat - 1) * q.pageSize.toNat := by
  have hlt : (q.page.toNat - 1) * q.pageSize.toNat < 2 ^ 32 * 2 ^ 32 :=
    Nat.mul_lt_mul'' (by have := q.page.toNat_lt; omega) q.pageSize.toNat_lt
  refine ⟨_, if_neg (ne_zero_of_one_le h), ?_⟩
  rw [UInt64.toNat_mul, UInt64.toNat_sub_of_le, UInt32.toNat_toUInt64, UInt32.toNat_toUInt64]
  · exact Nat.mod_eq_of_lt hlt
  · rw [UInt64.le_iff_toNat_le, UInt32.toNat_toUInt64]
    exact h

lemma pageEnd_eq {q : Pagination} (h : 1 ≤ q.page.toNat) {skip : UInt64}
    (hskip : skip.toNat = (q.page.toNat - 1) * q.pageSize.toNat) :
    skip.toNat + q.pageSize.toNat = q.page.toNat * q.pageSize.toNat ∧
      skip.toNat + q.pageSize.toNat < UInt64.size := by
  have hend : skip.toNat + q.pageSize.toNat = q.page.toNat * q.pageSize.toNat := by
    rw [hskip, ← Nat.succ_mul, Nat.succ_eq_add_one, Nat.sub_add_cancel h]
  refine ⟨hend, ?_⟩
  rw [hend]
  exact Nat.mul_lt_mul'' q.page.toNat_lt q.pageSize.toNat_lt

end Pagination

namespace RecordPage

def pageCount (total size : Nat) : Nat :=
  (total + (size - 1)) / size

lemma totalPages_eq {p : RecordPage} (h : 1 ≤ p.pageSize.toNat) :
    p.totalPages = .ok (pageCount p.total p.pageSize.toNat) :=
  if_neg (ne_zero_of_one_le h)

lemma hasMoreData_eq {p : RecordPage} (h : p.skip.toNat + p.pageSize.toNat < UInt64.size) :
    p.hasMoreData = .ok (decide (p.skip.toNat + p.pageSize.toNat < p.total)) :=
  if_neg (Nat.not_le.mpr h)

lemma lt_iff_lt_pageCount {size n : Nat} (total : Nat) (hsize : 1 ≤ size) :
    n * size < total ↔ n < pageCount total size := by
  rw [pageCount, Nat.lt_iff_add_one_le, Nat.lt_iff_add_one_le, Nat.le_div_iff_mul_le hsize,
    Nat.add_mul]
  omega

end RecordPage

namespace Store

open RecordPage

def readPage (s : Store) (kind : RecordKind) (q : Pagination) : Except Fault RecordPage := do
  let skip ← q.rowsToSkip
  return ofSlice kind q skip (s.fetch kind q skip)

inductive Reads (s : Store) (kind : RecordKind) (q : Pagination) : UInt32 → List RecordPage → Prop
  | last {n : UInt32} {p : RecordPage} : s.readPage kind (q.onPage n) = .ok p →
      p.hasMoreData = .ok false → Reads s kind q n [p]
  | more {n : UInt32} {p : RecordPage} {pages : List RecordPage} :
      s.readPage kind (q.onPage n) = .ok p → p.hasMoreData = .ok true →
      Reads s kind q (n + 1) pages → Reads s kind q n (p :: pages)

structure IsPage (records : List Stored) (size n : Nat) (p : RecordPage) : Prop where
  items : p.items = ((records.drop ((n - 1) * size)).take size).map Stored.payload
  total : p.total = records.length
  totalPages : p.totalPages = .ok (pageCount records.length size)
  hasMoreData : p.hasMoreData = .ok (decide (n * size < records.length))

variable {s : Store} {kind : RecordKind} {q : Pagination} {records : List Stored} {size n : Nat}
  {p : RecordPage}

lemma exists_readPage (s : Store) (kind : RecordKind) (q : Pagination)
    (hsize : 1 ≤ q.pageSize.toNat) {n : UInt32} (hn : 1 ≤ n.toNat) :
    ∃ p, s.readPage kind (q.onPage n) = .ok p ∧
      IsPage (s.within kind q.startDate q.endDate) q.pageSize.toNat n.toNat p := by
  have hpage : 1 ≤ (q.onPage n).page.toNat := hn
  obtain ⟨skip, hskip, hnat⟩ := Pagination.rowsToSkip_eq hpage
  obtain ⟨hend, hfits⟩ := Pagination.pageEnd_eq hpage hnat
  refine ⟨ofSlice kind (q.onPage n) skip (s.fetch kind (q.onPage n) skip), ?_, ?_, rfl,
    totalPages_eq hsize, ?_⟩
  · rw [readPage, hskip]
    rfl
  · rw [ofSlice, fetch, hnat]
    rfl
  · refine (hasMoreData_eq hfits).trans ?_
    change Except.ok (decide (skip.toNat + (q.onPage n).pageSize.toNat < _)) = _
    rw [hend]
    rfl

namespace IsPage

lemma length_items (h : IsPage records size n p) :
    p.items.length = min size (records.length - (n - 1) * size) := by
  rw [h.items, List.length_map, List.length_take, List.length_drop]

lemma isEmpty_iff (h : IsPage records size n p) (hsize : 1 ≤ size) :
    p.isEmpty = true ↔ records.length ≤ (n - 1) * size := by
  rw [isEmpty, List.isEmpty_iff_length_eq_zero, h.length_items]
  omega

lemma items_append (h : IsPage records size n p) (hn : 1 ≤ n) :
    p.items ++ (records.drop (n * size)).map Stored.payload =
      (records.drop ((n - 1) * size)).map Stored.payload := by
  obtain ⟨m, rfl⟩ := Nat.exists_eq_add_of_le' hn
  rw [h.items, ← List.map_append, Nat.add_mul, Nat.one_mul, Nat.add_sub_cancel, ← List.drop_drop,
    List.take_append_drop]

lemma not_isEmpty_iff (h : IsPage records size n p) (hsize : 1 ≤ size) (hn : 1 ≤ n) :
    p.isEmpty = false ↔ n ≤ pageCount records.length size := by
  have hlt := lt_iff_lt_pageCount (n := n - 1) records.length hsize
  rw [← Bool.not_eq_true, h.isEmpty_iff hsize]
  omega

end IsPage

structure IsReading (records : List Stored) (size n : Nat) (pages : List RecordPage) : Prop where
  ne_nil : pages ≠ []
  items : pages.flatMap RecordPage.items = (records.drop ((n - 1) * size)).map Stored.payload
  full : ∀ p ∈ pages.dropLast, p.items.length = size
  same : ∀ p ∈ pages, p.total = records.length ∧
    p.totalPages = .ok (pageCount records.length size)
  filled : (pages.filter (!·.isEmpty)).length = pageCount records.length size - (n - 1)

lemma isReading_last (h : IsPage records size n p) (hsize : 1 ≤ size) (hn : 1 ≤ n)
    (hlast : p.hasMoreData = .ok false) : IsReading records size n [p] where
  ne_nil := List.cons_ne_nil p []
  items := by
    have hend : records.length ≤ n * size := by
      have := h.hasMoreData.symm.trans hlast
      simpa using this
    have := h.items_append hn
    rw [List.drop_eq_nil_of_le hend, List.map_nil, List.append_nil] at this
    rw [List.flatMap_singleton, this]
  full := by
    rintro _ ⟨⟩
  same := by
    rintro _ hp
    rw [List.mem_singleton.mp hp]
    exact ⟨h.total, h.totalPages⟩
  filled := by
    have hle : ¬ n < pageCount records.length size := by
      rw [← lt_iff_lt_pageCount _ hsize]
      have := h.hasMoreData.symm.trans hlast
      simpa using this
    have hempty := h.not_isEmpty_iff hsize hn
    cases hp : p.isEmpty with
    | true =>
      rw [List.filter_cons_of_neg (by simp [hp])]
      simp only [hp, reduceCtorEq, false_iff] at hempty
      simp only [List.filter_nil, List.length_nil]
      omega
    | false =>
      rw [List.filter_cons_of_pos (by simp [hp])]
      simp only [hp, true_iff] at hempty
      simp only [List.filter_nil, List.length_cons, List.length_nil]
      omega

lemma isReading_cons {pages : List RecordPage} (h : IsPage records size n p) (hsize : 1 ≤ size)
    (hn : 1 ≤ n) (hmore : n * size < records.length) (hr : IsReading records size (n + 1) pages) :
    IsReading records size n (p :: pages) where
  ne_nil := List.cons_ne_nil p pages
  items := by
    rw [List.flatMap_cons, hr.items, Nat.add_sub_cancel, h.items_append hn]
  full := by
    rw [List.dropLast_cons_of_ne_nil hr.ne_nil]
    rintro p' hp
    rcases List.mem_cons.mp hp with rfl | hp
    · have hstep : (n - 1) * size + size = n * size := by
        rw [← Nat.succ_mul, Nat.succ_eq_add_one, Nat.sub_add_cancel hn]
      rw [h.length_items]
      omega
    · exact hr.full p' hp
  same := by
    rintro p' hp
    rcases List.mem_cons.mp hp with rfl | hp
    · exact ⟨h.total, h.totalPages⟩
    · exact hr.same p' hp
  filled := by
    have hlt := (lt_iff_lt_pageCount records.length hsize).mp hmore
    have hp := (h.not_isEmpty_iff hsize hn).mpr (by omega)
    rw [List.filter_cons_of_pos (by simp [hp]), List.length_cons, hr.filled]
    omega

lemma toNat_succ {n : UInt32} (h : n.toNat + 1 < 2 ^ 32) : (n + 1).toNat = n.toNat + 1 := by
  rw [UInt32.toNat_add]
  exact Nat.mod_eq_of_lt h

lemma Reads.unique {n : UInt32} {pages others : List RecordPage} (h : Reads s kind q n pages)
    (h' : Reads s kind q n others) : others = pages := by
  induction h generalizing others with
  | last hp hl =>
    cases h' with
    | last hp' _ => rw [Except.ok.inj (hp'.symm.trans hp)]
    | more hp' hm _ =>
      rw [Except.ok.inj (hp'.symm.trans hp), hl] at hm
      cases hm
  | more hp hm _ ih =>
    cases h' with
    | last hp' hl =>
      rw [Except.ok.inj (hp'.symm.trans hp), hm] at hl
      cases hl
    | more hp' _ hr => rw [Except.ok.inj (hp'.symm.trans hp), ih hr]

lemma exists_reading (s : Store) (kind : RecordKind) (q : Pagination)
    (hsize : 1 ≤ q.pageSize.toNat) {left : Nat} {n : UInt32} (hn : 1 ≤ n.toNat)
    (hleft : pageCount (s.within kind q.startDate q.endDate).length q.pageSize.toNat ≤
      n.toNat + left) (hfits : n.toNat + left < 2 ^ 32) :
    ∃ pages, Reads s kind q n pages ∧
      IsReading (s.within kind q.startDate q.endDate) q.pageSize.toNat n.toNat pages := by
  induction left generalizing n with
  | zero =>
    obtain ⟨p, hp, h⟩ := exists_readPage s kind q hsize hn
    have hlast : p.hasMoreData = .ok false := by
      rw [h.hasMoreData, decide_eq_false]
      rw [lt_iff_lt_pageCount _ hsize, Nat.not_lt]
      exact hleft
    exact ⟨[p], .last hp hlast, isReading_last h hsize hn hlast⟩
  | succ left ih =>
    obtain ⟨p, hp, h⟩ := exists_readPage s kind q hsize hn
    by_cases hmore : n.toNat * q.pageSize.toNat < (s.within kind q.startDate q.endDate).length
    · have hsucc := toNat_succ (n := n) (by omega)
      obtain ⟨pages, hr, hpages⟩ := ih (n := n + 1) (by omega) (by omega) (by omega)
      rw [hsucc] at hpages
      refine ⟨p :: pages, .more hp ?_ hr, isReading_cons h hsize hn hmore hpages⟩
      rw [h.hasMoreData, decide_eq_true hmore]
    · have hlast : p.hasMoreData = .ok false := by
        rw [h.hasMoreData, decide_eq_false hmore]
      exact ⟨[p], .last hp hlast, isReading_last h hsize hn hlast⟩

lemma IsPage.hasMoreData_eq {next : RecordPage} (h : IsPage records size n p)
    (hnext : IsPage records size (n + 1) next) (hsize : 1 ≤ size) :
    p.hasMoreData = .ok (!next.isEmpty) := by
  have hlt := lt_iff_lt_pageCount (n := n) records.length hsize
  have hempty := hnext.not_isEmpty_iff hsize (Nat.le_add_left 1 n)
  rw [h.hasMoreData]
  congr 1
  rw [Bool.eq_iff_iff, decide_eq_true_iff, hlt, Bool.not_eq_true', hempty]
  rfl

theorem reading_is_complete (changes : List Change) (kind : RecordKind) (q : Pagination)
    (hsize : 1 ≤ q.pageSize.toNat)
    (hfew : pageCount (wanted changes kind q.startDate q.endDate).length q.pageSize.toNat <
      2 ^ 31) :
    let records := wanted changes kind q.startDate q.endDate
    ∃ pages, (∀ others, Reads (run changes) kind q 1 others ↔ others = pages) ∧
      pages.flatMap RecordPage.items = records.map Stored.payload ∧
      (∀ p ∈ pages, p.total = records.length) ∧
      (∀ p ∈ pages.dropLast, p.items.length = q.pageSize.toNat) ∧
      (∀ p ∈ pages, p.totalPages = .ok (pages.filter (!·.isEmpty)).length) ∧
      ∀ n : UInt32, 1 ≤ n.toNat → n.toNat + 1 < 2 ^ 32 → ∃ here next,
        (run changes).readPage kind (q.onPage n) = .ok here ∧
        (run changes).readPage kind (q.onPage (n + 1)) = .ok next ∧
        here.hasMoreData = .ok (!next.isEmpty) ∧
        (here.isEmpty = false ↔ n.toNat ≤ (pages.filter (!·.isEmpty)).length) := by
  intro records
  have hw : (run changes).within kind q.startDate q.endDate = records := within_run changes kind _ _
  have hone : (1 : UInt32).toNat = 1 := rfl
  have hfits : pageCount records.length q.pageSize.toNat ≤ (1 : UInt32).toNat + (2 ^ 31 - 1) := by
    rw [hone]
    exact Nat.le_of_lt hfew
  obtain ⟨pages, hreads, h⟩ := exists_reading (run changes) kind q hsize (Nat.le_of_eq hone.symm)
    (by rw [hw]; exact hfits) (by omega)
  rw [hw, hone] at h
  have hfilled : (pages.filter (!·.isEmpty)).length = pageCount records.length q.pageSize.toNat := by
    rw [h.filled, Nat.sub_self, Nat.sub_zero]
  refine ⟨pages, ?_, ?_, ?_, h.full, ?_, ?_⟩
  · intro others
    constructor
    · exact fun h' => hreads.unique h'
    · rintro rfl
      exact hreads
  · rw [h.items, Nat.sub_self, Nat.zero_mul, List.drop_zero]
  · intro p hp
    exact (h.same p hp).1
  · intro p hp
    rw [hfilled]
    exact (h.same p hp).2
  · intro n hn hlt
    obtain ⟨here, hhere, hp⟩ := exists_readPage (run changes) kind q hsize hn
    obtain ⟨next, hnext, hp'⟩ := exists_readPage (run changes) kind q hsize (n := n + 1)
      (by rw [toNat_succ hlt]; omega)
    rw [hw] at hp hp'
    rw [toNat_succ hlt] at hp'
    refine ⟨here, next, hhere, hnext, hp.hasMoreData_eq hp' hsize, ?_⟩
    rw [hfilled]
    exact hp.not_isEmpty_iff hsize hn

theorem reading_is_complete_exact_multiple :
    let record (time name : String) : Json :=
      .ofMembers [("recordInsertDatetime", .string time), ("name", .string name)]
    let changes : List Change := [
      .extend .episodes [record "2024-01-03" "c", record "2024-01-02" "a", record "?" "none"],
      .insert .profiles (record "2024-01-02" "other"),
      .extend .episodes [record "2024-01-02" "b", record "2023-12-31" "early",
        record "2024-01-04" "d"]]
    let q : Pagination := ⟨1, 2, ⟨⟨2024, 1, 1, by decide⟩, Calendar.Time.midnight⟩,
      ⟨⟨2024, 1, 31, by decide⟩, Calendar.Time.midnight⟩⟩
    pageCount (wanted changes .episodes q.startDate q.endDate).length q.pageSize.toNat = 2 ∧
      ∃ pages, Reads (run changes) .episodes q 1 pages ∧
        pages.flatMap RecordPage.items = [record "2024-01-02" "a", record "2024-01-02" "b",
          record "2024-01-03" "c", record "2024-01-04" "d"] := by
  intro record changes q
  have hcount : pageCount (wanted changes .episodes q.startDate q.endDate).length
      q.pageSize.toNat = 2 := by cbv
  have hwanted : (wanted changes .episodes q.startDate q.endDate).map Stored.payload =
      [record "2024-01-02" "a", record "2024-01-02" "b", record "2024-01-03" "c",
        record "2024-01-04" "d"] := by cbv
  obtain ⟨pages, hreads, hitems, _⟩ :=
    reading_is_complete changes .episodes q (by decide) (by rw [hcount]; decide)
  refine ⟨hcount, pages, (hreads pages).mpr rfl, ?_⟩
  rw [hitems, hwanted]

end Store

end TierRelay
