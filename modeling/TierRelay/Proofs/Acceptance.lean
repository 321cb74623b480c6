import TierRelay.Proofs.PageParameters

namespace TierRelay

namespace Pagination

open Text Calendar

def IsWord (text : String) (n : Int) : Prop :=
  ∃ front core back, text.toList = front ++ core ++ back ∧ (∀ c ∈ front, isBlank c = true) ∧
    (∀ c ∈ back, isBlank c = true) ∧ IsNumeral core n ∧ -2 ^ 31 ≤ n ∧ n < 2 ^ 31

lemma word?_eq_some_iff {text : String} {n : Int} : word? text = some n ↔ IsWord text n := by
  have hwithin {core : List Char} : integerWithin? 32 core = some n ↔
      IsNumeral core n ∧ -2 ^ 31 ≤ n ∧ n < 2 ^ 31 := by
    rw [integerWithin?, Option.filter_eq_some_iff, integer?_eq_some_iff, Bool.and_eq_true,
      decide_eq_true_eq, decide_eq_true_eq]
    rfl
  rw [word?, hwithin]
  constructor
  · rintro ⟨hnumeral, hbounds⟩
    obtain ⟨front, back, htext, hfront, hback⟩ := exists_trim text.toList
    exact ⟨front, _, back, htext, hfront, hback, hnumeral, hbounds⟩
  · rintro ⟨front, core, back, htext, hfront, hback, hnumeral, hbounds⟩
    have htrimmed := isTrimmed_of_not_isBlank hnumeral.ne_nil hnumeral.not_isBlank
    rw [htext, htrimmed.trim_surrounded hfront hback]
    exact ⟨hnumeral, hbounds⟩

def IsPage (raw : Option String) (page : UInt32) : Prop :=
  ∃ text n, raw = some text ∧ IsWord text n ∧ (page.toNat : Int) = max 1 n

def IsPageSize (raw : Option String) (size : UInt32) : Prop :=
  (∃ text n, raw = some text ∧ IsWord text n ∧ (size.toNat : Int) = max 1 (min n 5000)) ∨
    (∀ text n, raw = some text → ¬ IsWord text n) ∧ size = 1000

variable {raw : Option String} {page size : UInt32} {p : Parameters} {q : Pagination}

lemma ofNat_toNat_eq_iff {m : Int} (hm : 0 ≤ m) (hfits : m < 2 ^ 32) :
    UInt32.ofNat m.toNat = page ↔ (page.toNat : Int) = m := by
  rw [← UInt32.toNat_inj, UInt32.toNat_ofNat']
  omega

lemma page?_eq_some_iff : page? raw = some page ↔ IsPage raw page := by
  rw [page?, Option.map_eq_some_iff]
  constructor
  · rintro ⟨n, hn, hpage⟩
    obtain ⟨text, rfl, hword⟩ := Option.bind_eq_some_iff.mp hn
    have hbound := word?_bounds hword
    rw [ofNat_toNat_eq_iff (by omega) (by omega), max_comm] at hpage
    exact ⟨text, n, rfl, word?_eq_some_iff.mp hword, hpage⟩
  · rintro ⟨text, n, rfl, hword, hpage⟩
    have hword := word?_eq_some_iff.mpr hword
    have hbound := word?_bounds hword
    rw [max_comm] at hpage
    exact ⟨n, hword, (ofNat_toNat_eq_iff (by omega) (by omega)).mpr hpage⟩

lemma bind_word?_eq_none_iff :
    raw.bind word? = none ↔ ∀ text n, raw = some text → ¬ IsWord text n := by
  rw [Option.bind_eq_none_iff]
  constructor
  · intro h text n hraw hword
    have hnone := h text hraw
    rw [word?_eq_some_iff.mpr hword] at hnone
    cases hnone
  · intro h text hraw
    rw [Option.eq_none_iff_forall_ne_some]
    intro n hn
    exact h text n hraw (word?_eq_some_iff.mp hn)

lemma page?_eq_none_iff : page? raw = none ↔ ∀ text n, raw = some text → ¬ IsWord text n := by
  rw [page?, Option.map_eq_none_iff, bind_word?_eq_none_iff]

lemma pageSizeOf_eq_iff : pageSizeOf raw = size ↔ IsPageSize raw size := by
  rw [IsPageSize, ← bind_word?_eq_none_iff, pageSizeOf]
  cases hraw : raw.bind word? with
  | none =>
    rw [bind_word?_eq_none_iff] at hraw
    constructor
    · rintro rfl
      exact .inr ⟨rfl, rfl⟩
    · rintro (⟨text, n, htext, hword, _⟩ | ⟨_, rfl⟩)
      · exact absurd hword (hraw text n htext)
      · rfl
  | some n =>
    obtain ⟨text, rfl, hword⟩ := Option.bind_eq_some_iff.mp hraw
    dsimp only [smallestPageSize, largestPageSize]
    rw [ofNat_toNat_eq_iff (by omega) (by omega)]
    constructor
    · intro hsize
      exact .inl ⟨text, n, rfl, word?_eq_some_iff.mp hword, hsize⟩
    · rintro (⟨_, m, ⟨⟩, hm, hsize⟩ | ⟨hnone, _⟩)
      · rw [← word?_eq_some_iff, hword] at hm
        cases hm
        exact hsize
      · cases hnone

lemma parse_eq_page_iff : parse p = .error .page ↔ page? p.page = none := by
  rw [parse]
  cases page? p.page with
  | none => simp
  | some page =>
    cases p.startDate.bind DateTime.parse? <;> cases p.endDate.bind DateTime.parse? <;> simp

lemma parse_eq_dateRange_iff : parse p = .error .dateRange ↔ page? p.page ≠ none ∧
    (p.startDate.bind DateTime.parse? = none ∨ p.endDate.bind DateTime.parse? = none) := by
  rw [parse]
  cases page? p.page with
  | none => simp
  | some page =>
    cases p.startDate.bind DateTime.parse? <;> cases p.endDate.bind DateTime.parse? <;> simp

theorem parse_accepts (p : Parameters) :
    (parse p = .error .page ↔ ∀ text n, p.page = some text → ¬ IsWord text n) ∧
    (parse p = .error .dateRange ↔ (∃ text n, p.page = some text ∧ IsWord text n) ∧
      (p.startDate.bind DateTime.parse? = none ∨ p.endDate.bind DateTime.parse? = none)) ∧
    (∀ q, parse p = .ok q ↔ IsPage p.page q.page ∧ IsPageSize p.pageSize q.pageSize ∧
      p.startDate.bind DateTime.parse? = some q.startDate ∧
      p.endDate.bind DateTime.parse? = some q.endDate) ∧
    (∀ pageSize cause, parse { p with pageSize } = .error cause ↔ parse p = .error cause) ∧
    ∀ q, parse p = .ok q →
      1 ≤ q.page.toNat ∧ q.page.toNat ≤ 2147483647 ∧
      1 ≤ q.pageSize.toNat ∧ q.pageSize.toNat ≤ 5000 ∧
      parse { p with
        page := some (String.ofList (decimal q.page.toNat))
        pageSize := some (String.ofList (decimal q.pageSize.toNat)) } = .ok q := by
  have hword : page? p.page ≠ none ↔ ∃ text n, p.page = some text ∧ IsWord text n := by
    rw [Ne, page?_eq_none_iff]
    push Not
    rfl
  refine ⟨parse_eq_page_iff.trans page?_eq_none_iff, ?_, ?_, ?_, ?_⟩
  · rw [parse_eq_dateRange_iff, hword]
  · intro q
    rw [parse_eq_ok, page?_eq_some_iff, pageSizeOf_eq_iff]
  · intro pageSize cause
    cases cause with
    | page => exact parse_eq_page_iff.trans (parse_eq_page_iff (p := p)).symm
    | dateRange => exact parse_eq_dateRange_iff.trans (parse_eq_dateRange_iff (p := p)).symm
  · intro q h
    have hvalid := isValid_of_parse h
    have hlt := hvalid.page_lt
    obtain ⟨_, _, hstart, hend⟩ := parse_eq_ok.mp h
    refine ⟨hvalid.page_pos, by omega, hvalid.pageSize_pos, hvalid.pageSize_le, ?_⟩
    exact parse_eq_ok.mpr ⟨page?_decimal hvalid.page_pos hlt,
      pageSizeOf_decimal hvalid.pageSize_pos hvalid.pageSize_le, hstart, hend⟩

theorem parse_accepts_below_one :
    let p : Parameters :=
      ⟨some " -07\u3000", some "10000000000", some "2024-02-29", some "2023-12-31"⟩
    let q : Pagination := ⟨1, 1000, ⟨⟨2024, 2, 29, by decide⟩, Time.midnight⟩,
      ⟨⟨2023, 12, 31, by decide⟩, Time.midnight⟩⟩
    parse p = .ok q ∧ parse { p with page := some "1", pageSize := some "1000" } = .ok q := by
  intro p q
  obtain ⟨_, _, hok, _, hagain⟩ := parse_accepts p
  have hword : IsWord " -07\u3000" (-7) := by
    refine ⟨[' '], ['-', '0', '7'], ['\u3000'], by cbv, ?_, ?_, ?_, by norm_num, by norm_num⟩
    · exact List.forall_mem_singleton.mpr (by decide)
    · exact List.forall_mem_singleton.mpr (by decide)
    · exact @IsNumeral.minus ['0', '7'] (by decide) (List.all_eq_true.mp rfl)
  have hsize : IsPageSize p.pageSize q.pageSize := pageSizeOf_eq_iff.mp (by cbv)
  have hparse : parse p = .ok q :=
    (hok q).mpr ⟨⟨_, -7, rfl, hword, by decide⟩, hsize, by cbv, by cbv⟩
  obtain ⟨_, _, _, _, hsame⟩ := hagain q hparse
  have hpage : String.ofList (decimal q.page.toNat) = "1" := by cbv
  have hdefault : String.ofList (decimal q.pageSize.toNat) = "1000" := by cbv
  rw [hpage, hdefault] at hsame
  exact ⟨hparse, hsame⟩

end Pagination

end TierRelay
