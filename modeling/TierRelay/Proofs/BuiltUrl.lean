import TierRelay.Proofs.FormCodec
import TierRelay.Proofs.PageParameters
import TierRelay.Proofs.UrlParts

namespace TierRelay.Url

open TierRelay.Text TierRelay.Query

def cutQuery (text : List Char) : Option (List Char) :=
  after? '?' (before '#' text)

def cutFront (text : List Char) : List Char :=
  before '?' (before '#' text)

def cutFragment (text : List Char) : Option (List Char) :=
  after? '#' text

lemma not_mem_marked {s : List Char} {query : Option (List Char)} (hs : IsInner s)
    (hq : ∀ text, query = some text → '#' ∉ text) : '#' ∉ s ++ marked '?' query := by
  rw [List.mem_append, not_or]
  refine ⟨hs.not_mem (by decide), ?_⟩
  cases query with
  | none => exact List.not_mem_nil
  | some text =>
    rw [marked, List.mem_cons, not_or]
    exact ⟨by decide, hq text rfl⟩

lemma before_textChars {u : Url} (h : u.IsMarked) :
    before '#' u.textChars = u.front ++ marked '?' u.query := by
  rw [textChars_eq]
  exact before_append_marked (not_mem_marked h.front h.query) u.fragment

lemma cutFragment_textChars {u : Url} (h : u.IsMarked) :
    cutFragment u.textChars = u.fragment := by
  rw [cutFragment, textChars_eq]
  exact after?_append_marked (not_mem_marked h.front h.query) u.fragment

lemma cutFront_textChars {u : Url} (h : u.IsMarked) : cutFront u.textChars = u.front := by
  rw [cutFront, before_textChars h]
  exact before_append_marked (h.front.not_mem (by decide)) u.query

lemma cutQuery_textChars {u : Url} (h : u.IsMarked) : cutQuery u.textChars = u.query := by
  rw [cutQuery, before_textChars h]
  exact after?_append_marked (h.front.not_mem (by decide)) u.query

lemma front_appendPairs (u : Url) (added : Form.Pairs) : (u.appendPairs added).front = u.front := rfl

lemma isMarked_appendPairs {u : Url} (h : u.IsMarked) (added : Form.Pairs) :
    (u.appendPairs added).IsMarked where
  front := h.front
  query := by
    rintro _ ⟨⟩ hm
    rcases Form.mem_append hm with hm | hm | hm | hm
    · cases hq : u.query with
      | none =>
        rw [hq] at hm
        cases hm
      | some query =>
        rw [hq] at hm
        exact h.query query hq hm
    · exact absurd hm (by decide)
    · exact absurd hm (by decide)
    · exact absurd hm (by decide)

lemma pairs_appendPairs (u : Url) (added : Form.Pairs) :
    (u.appendPairs added).pairs = u.pairs ++ added :=
  Form.pairs_append (u.query.getD []) added

theorem built_url_round_trip {text : String} {base : Url} (hbase : parse text = .ok base)
    {given : Pagination.Parameters} {q : Pagination} (hq : Pagination.parse given = .ok q) :
    let built := base.appendPairs q.pairs
    built.pairs = base.pairs ++ [("page", String.ofList (decimal q.page.toNat)),
        ("pageSize", String.ofList (decimal q.pageSize.toNat)),
        ("startDate", q.startDate.canonical), ("endDate", q.endDate.canonical)] ∧
      (built.scheme = base.scheme ∧ built.authority = base.authority ∧ built.path = base.path ∧
        built.fragment = base.fragment) ∧
      (cutFront built.textChars = cutFront base.textChars ∧
        cutFragment built.textChars = cutFragment base.textChars ∧
        Form.pairs ((cutQuery built.textChars).getD []) =
          Form.pairs ((cutQuery base.textChars).getD []) ++ q.pairs) ∧
      Pagination.parse (.ofPairs built.pairs) = .ok q := by
  intro built
  have hb := isMarked_of_parse hbase
  have hm : built.IsMarked := isMarked_appendPairs hb q.pairs
  have hp : built.pairs = base.pairs ++ q.pairs := pairs_appendPairs base q.pairs
  refine ⟨hp, ⟨rfl, rfl, rfl, rfl⟩, ⟨?_, ?_, ?_⟩, ?_⟩
  · rw [cutFront_textChars hm, cutFront_textChars hb]
    rfl
  · rw [cutFragment_textChars hm, cutFragment_textChars hb]
    rfl
  · rw [cutQuery_textChars hm, cutQuery_textChars hb]
    exact hp
  · rw [hp]
    exact Pagination.parse_append_pairs (Pagination.isValid_of_parse hq) base.pairs

theorem built_url_round_trip_overrides :
    let base : Url := ⟨"http".toList, some ⟨['u'], some ['p'], .name ['h'], some 81⟩,
      .segments [['a']], some "page=9&endDate=x&".toList, some ['f']⟩
    let q : Pagination := ⟨7, 1000, ⟨⟨2024, 2, 29, by decide⟩, Calendar.Time.midnight⟩,
      ⟨⟨-1, 12, 31, by decide⟩, ⟨23, 1, 0, 0, by decide⟩⟩⟩
    parse "http://u:p@h:81/a?page=9&endDate=x&#f" = .ok base ∧
      Pagination.parse ⟨some " +7 ", some "?", some "2024-02-29", some "31/12/-1 23:01"⟩ = .ok q ∧
      (base.appendPairs q.pairs).pairs = base.pairs ++ q.pairs ∧
      Pagination.parse (.ofPairs (base.appendPairs q.pairs).pairs) = .ok q := by
  intro base q
  have hbase : parse "http://u:p@h:81/a?page=9&endDate=x&#f" = .ok base := by cbv
  have hq : Pagination.parse ⟨some " +7 ", some "?", some "2024-02-29", some "31/12/-1 23:01"⟩ =
      .ok q := by cbv
  have hr := built_url_round_trip hbase hq
  exact ⟨hbase, hq, hr.1, hr.2.2.2⟩

end TierRelay.Url
