import TierRelay.Proofs.WireDate
import TierRelay.Query.Pagination

namespace TierRelay

lemma Query.Form.last?_append (name : String) (before added : Form.Pairs) :
    last? name (before ++ added) = (last? name added).or (last? name before) := by
  rw [last?, List.reverse_append, List.lookup_append, last?, last?]

namespace Pagination

open Text Calendar Query

structure IsValid (q : Pagination) : Prop where
  page_pos : 1 ≤ q.page.toNat
  page_lt : q.page.toNat < 2 ^ 31
  pageSize_pos : 1 ≤ q.pageSize.toNat
  pageSize_le : q.pageSize.toNat ≤ 5000
  startDate_whole : q.startDate.wholeSecond = q.startDate
  endDate_whole : q.endDate.wholeSecond = q.endDate

lemma word?_bounds {raw : String} {n : Int} (h : word? raw = some n) : n < 2 ^ 31 := by
  have := (Option.filter_eq_some_iff.mp h).2
  simp only [Bool.and_eq_true, decide_eq_true_eq] at this
  exact this.2

lemma page?_bounds {raw : Option String} {p : UInt32} (h : page? raw = some p) :
    1 ≤ p.toNat ∧ p.toNat < 2 ^ 31 := by
  obtain ⟨n, hn, rfl⟩ := Option.map_eq_some_iff.mp h
  obtain ⟨_, _, hw⟩ := Option.bind_eq_some_iff.mp hn
  have := word?_bounds hw
  rw [UInt32.toNat_ofNat']
  omega

lemma pageSizeOf_bounds (raw : Option String) :
    1 ≤ (pageSizeOf raw).toNat ∧ (pageSizeOf raw).toNat ≤ 5000 := by
  simp only [pageSizeOf]
  split
  · decide
  · rw [UInt32.toNat_ofNat', smallestPageSize, largestPageSize]
    omega

lemma parse_eq_ok {p : Parameters} {q : Pagination} : parse p = .ok q ↔
    page? p.page = some q.page ∧ pageSizeOf p.pageSize = q.pageSize ∧
      p.startDate.bind DateTime.parse? = some q.startDate ∧
      p.endDate.bind DateTime.parse? = some q.endDate := by
  simp only [parse]
  constructor
  · intro h
    split at h
    · cases h
    · next hp hs he =>
      cases h
      exact ⟨hp, rfl, hs, he⟩
    · cases h
  · rintro ⟨hp, hz, hs, he⟩
    rw [hp, hs, he, hz]

lemma isValid_of_parse {p : Parameters} {q : Pagination} (h : parse p = .ok q) : q.IsValid := by
  obtain ⟨hp, hz, hs, he⟩ := parse_eq_ok.mp h
  have hpage := page?_bounds hp
  have hsize := pageSizeOf_bounds p.pageSize
  rw [hz] at hsize
  obtain ⟨_, _, hs⟩ := Option.bind_eq_some_iff.mp hs
  obtain ⟨_, _, he⟩ := Option.bind_eq_some_iff.mp he
  exact ⟨hpage.1, hpage.2, hsize.1, hsize.2, DateTime.wholeSecond_of_parse? hs,
    DateTime.wholeSecond_of_parse? he⟩

lemma word?_decimal {n : Nat} (h : n < 2 ^ 31) :
    word? (String.ofList (decimal n)) = some (n : Int) := by
  have htrimmed := isTrimmed_of_isDigit (decimal_ne_nil n) fun _ => isDigit_of_mem_decimal
  rw [word?, String.toList_ofList, htrimmed.trim, integerWithin?, integer?_decimal,
    Option.filter_some, if_pos]
  simp only [Bool.and_eq_true, decide_eq_true_eq]
  omega

lemma page?_decimal {n : UInt32} (hpos : 1 ≤ n.toNat) (h : n.toNat < 2 ^ 31) :
    page? (some (String.ofList (decimal n.toNat))) = some n := by
  rw [page?, Option.bind_some, word?_decimal h, Option.map_some,
    show (max (n.toNat : Int) 1).toNat = n.toNat by omega, UInt32.ofNat_toNat]

lemma pageSizeOf_decimal {n : UInt32} (hpos : 1 ≤ n.toNat) (h : n.toNat ≤ 5000) :
    pageSizeOf (some (String.ofList (decimal n.toNat))) = n := by
  rw [pageSizeOf, Option.bind_some, word?_decimal (by omega)]
  simp only [smallestPageSize, largestPageSize]
  rw [show (max 1 (min (n.toNat : Int) 5000)).toNat = n.toNat by omega, UInt32.ofNat_toNat]

lemma ofPairs_append_pairs (before : Form.Pairs) (q : Pagination) :
    Parameters.ofPairs (before ++ q.pairs) =
      ⟨some (String.ofList (decimal q.page.toNat)), some (String.ofList (decimal q.pageSize.toNat)),
        some q.startDate.canonical, some q.endDate.canonical⟩ := by
  simp only [Parameters.ofPairs, Form.last?_append]
  rfl

lemma parse_append_pairs {q : Pagination} (h : q.IsValid) (before : Form.Pairs) :
    parse (.ofPairs (before ++ q.pairs)) = .ok q := by
  rw [ofPairs_append_pairs, parse_eq_ok]
  refine ⟨page?_decimal h.page_pos h.page_lt, pageSizeOf_decimal h.pageSize_pos h.pageSize_le,
    ?_, ?_⟩
  · rw [Option.bind_some, DateTime.parse?_canonical, h.startDate_whole]
  · rw [Option.bind_some, DateTime.parse?_canonical, h.endDate_whole]

end Pagination

end TierRelay
