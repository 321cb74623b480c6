import TierRelay.Proofs.PageReading

namespace TierRelay

lemma one_le_of_ne_zero {n : UInt32} (h : n ≠ 0) : 1 ≤ n.toNat :=
  Nat.one_le_iff_ne_zero.mpr fun hn => h (UInt32.toNat_inj.mp hn)

namespace Pagination

variable {q : Pagination}

lemma rowsToSkip_eq_error_iff : q.rowsToSkip = .error .overflow ↔ q.page = 0 := by
  rw [rowsToSkip]
  split
  · next h => exact iff_of_true rfl h
  · next h => exact iff_of_false nofun h

lemma exists_rowsToSkip (h : q.page ≠ 0) : ∃ skip, q.rowsToSkip = .ok skip ∧
    (skip.toNat : Int) = (q.page.toNat - 1) * q.pageSize.toNat := by
  have hpage := one_le_of_ne_zero h
  obtain ⟨skip, hskip, hnat⟩ := rowsToSkip_eq hpage
  refine ⟨skip, hskip, ?_⟩
  rw [hnat, Int.natCast_mul, Int.natCast_sub hpage]
  rfl

end Pagination

namespace RecordPage

variable {p : RecordPage}

lemma totalPages_eq_error_iff : p.totalPages = .error .divisionByZero ↔ p.pageSize = 0 := by
  rw [totalPages]
  split
  · next h => exact iff_of_true rfl h
  · next h => exact iff_of_false nofun h

lemma isLeast_pageCount {size : Nat} (hsize : 1 ≤ size) (total : Nat) :
    IsLeast {k | total ≤ k * size} (pageCount total size) := by
  have hset : {k | total ≤ k * size} = Set.Ici (pageCount total size) := by
    ext k
    have := lt_iff_lt_pageCount (n := k) total hsize
    rw [Set.mem_ofPred_eq, Set.mem_Ici, ← Nat.not_lt, this, Nat.not_lt]
  rw [hset]
  exact isLeast_Ici

lemma pageCount_le {size : Nat} (hsize : 1 ≤ size) (total : Nat) : pageCount total size ≤ total :=
  (isLeast_pageCount hsize total).2 (Nat.le_mul_of_pos_right total hsize)

lemma hasMoreData_eq_error_iff :
    p.hasMoreData = .error .overflow ↔ 2 ^ 64 ≤ p.skip.toNat + p.pageSize.toNat := by
  rw [hasMoreData]
  split
  · next h => exact iff_of_true rfl h
  · next h => exact iff_of_false nofun h

lemma hasMoreData_ofSlice {q : Pagination} {skip : UInt64} (hq : q.IsValid)
    (hskip : skip.toNat = (q.page.toNat - 1) * q.pageSize.toNat) (kind : RecordKind)
    (slice : Store.Slice) : (ofSlice kind q skip slice).hasMoreData =
      .ok (decide (q.page.toNat < pageCount slice.total q.pageSize.toNat)) := by
  obtain ⟨hend, hfits⟩ := Pagination.pageEnd_eq hq.page_pos hskip
  refine (hasMoreData_eq hfits).trans ?_
  congr 1
  rw [decide_eq_decide, ← lt_iff_lt_pageCount slice.total hq.pageSize_pos, ← hend]
  rfl

theorem arithmetic_is_exact (q : Pagination) (p : RecordPage) :
    ((q.rowsToSkip = .error .overflow ↔ q.page = 0) ∧
      (q.page ≠ 0 → ∃ skip, q.rowsToSkip = .ok skip ∧
        (skip.toNat : Int) = (q.page.toNat - 1) * q.pageSize.toNat)) ∧
    ((p.totalPages = .error .divisionByZero ↔ p.pageSize = 0) ∧
      (p.pageSize ≠ 0 → ∃ pages, p.totalPages = .ok pages ∧ pages ≤ p.total ∧
        IsLeast {k | p.total ≤ k * p.pageSize.toNat} pages)) ∧
    ((p.hasMoreData = .error .overflow ↔ 2 ^ 64 ≤ p.skip.toNat + p.pageSize.toNat) ∧
      (p.skip.toNat + p.pageSize.toNat < 2 ^ 64 →
        p.hasMoreData = .ok (decide (p.skip.toNat + p.pageSize.toNat < p.total)))) ∧
    ∀ given, Pagination.parse given = .ok q → ∃ skip, q.rowsToSkip = .ok skip ∧
      ∀ kind slice, ∃ pages, (ofSlice kind q skip slice).totalPages = .ok pages ∧
        (ofSlice kind q skip slice).hasMoreData = .ok (decide (q.page.toNat < pages)) := by
  refine ⟨⟨Pagination.rowsToSkip_eq_error_iff, Pagination.exists_rowsToSkip⟩,
    ⟨totalPages_eq_error_iff, fun h => ?_⟩, ⟨hasMoreData_eq_error_iff, hasMoreData_eq⟩, ?_⟩
  · have hsize := one_le_of_ne_zero h
    exact ⟨_, totalPages_eq hsize, pageCount_le hsize p.total, isLeast_pageCount hsize p.total⟩
  · intro given hparse
    have hq := Pagination.isValid_of_parse hparse
    obtain ⟨skip, hskip, hnat⟩ := Pagination.rowsToSkip_eq hq.page_pos
    refine ⟨skip, hskip, fun kind slice => ?_⟩
    exact ⟨_, totalPages_eq (p := ofSlice kind q skip slice) hq.pageSize_pos,
      hasMoreData_ofSlice hq hnat kind slice⟩

theorem arithmetic_is_exact_last_page :
    let q : Pagination := ⟨2147483647, 5000, ⟨⟨2024, 1, 1, by decide⟩, Calendar.Time.midnight⟩,
      ⟨⟨2024, 12, 31, by decide⟩, Calendar.Time.midnight⟩⟩
    let full : Store.Slice := ⟨[], 2147483647 * 5000⟩
    let beyond : RecordPage := ⟨.profiles, [], 1, 1, 18446744073709551615, 18446744073709551615⟩
    Pagination.parse ⟨some "2147483647", some "9999", some "2024-01-01", some "2024-12-31"⟩ =
        .ok q ∧
      (∃ skip, q.rowsToSkip = .ok skip ∧
        (ofSlice .episodes q skip full).hasMoreData = .ok false ∧
        (ofSlice .episodes q skip ⟨[], full.total + 1⟩).hasMoreData = .ok true) ∧
      beyond.hasMoreData = .error .overflow := by
  intro q full beyond
  have hq : Pagination.parse
      ⟨some "2147483647", some "9999", some "2024-01-01", some "2024-12-31"⟩ = .ok q := by cbv
  obtain ⟨-, -, ⟨hbeyond, -⟩, hparsed⟩ := arithmetic_is_exact q beyond
  obtain ⟨skip, hskip, hsigns⟩ := hparsed _ hq
  have hcount (total : Nat) : (ofSlice .episodes q skip ⟨[], total⟩).totalPages =
      .ok (pageCount total 5000) := rfl
  refine ⟨hq, ⟨skip, hskip, ?_, ?_⟩, hbeyond.mpr (by decide)⟩
  · obtain ⟨pages, hpages, hmore⟩ := hsigns .episodes full
    obtain rfl := Except.ok.inj ((hcount _).symm.trans hpages)
    rw [hmore, show pageCount full.total 5000 = 2147483647 by decide]
    rfl
  · obtain ⟨pages, hpages, hmore⟩ := hsigns .episodes ⟨[], full.total + 1⟩
    obtain rfl := Except.ok.inj ((hcount _).symm.trans hpages)
    rw [hmore, show pageCount (full.total + 1) 5000 = 2147483648 by decide]
    rfl

end RecordPage

end TierRelay
