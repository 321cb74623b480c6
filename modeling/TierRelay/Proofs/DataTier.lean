import TierRelay.Proofs.PageAnswers
import TierRelay.Proofs.StoreReference

namespace TierRelay

open Http

def Store.slice (changes : List Change) (kind : RecordKind) (q : Pagination) : List Json :=
  (((reference changes kind q.startDate q.endDate).drop
    ((q.page.toNat - 1) * q.pageSize.toNat)).take q.pageSize.toNat).map Dated.record

namespace Tier

variable {t : Tier} {changes : List Store.Change} {listed : List RecordKind} {kind : RecordKind}
  {r : Request} {q : Pagination}

lemma answer_of_records (hb : t.backend = .records (Store.run changes).source listed)
    (hr : t.Serves kind r) (hq : Pagination.ofQuery r.query = .ok q) (network : Network)
    (fresh : Bytes) :
    ∃ answer, t.answer network fresh r = .ok answer ∧ answer.calls = [] ∧
      answer.response.view = if Store.slice changes kind q = [] ∧ kind ∈ listed
        then ⟨404, none, []⟩
        else ⟨200, some (Header.ofText "application/json"), Header.ofText (pageJson kind q
          (Store.slice changes kind q)
          (Store.matching changes kind q.startDate q.endDate).length).render⟩ := by
  have hvalid := Pagination.isValid_of_parse hq
  obtain ⟨skip, hskip, hnat⟩ := Pagination.rowsToSkip_eq hvalid.page_pos
  have hsource : (Store.run changes).source kind q skip = .ok ⟨Store.slice changes kind q,
      (Store.matching changes kind q.startDate q.endDate).length⟩ := by
    rw [Store.source, Store.fetch_run, hnat, Store.slice]
  obtain ⟨a, ha, hcalls, hresponse⟩ :=
    exists_fromRecords_of_slice listed hvalid hskip hnat hsource (idText fresh r)
  have hvalidated : t.validated network kind (idText fresh r) q = .ok a := by
    rw [validated, hb]
    exact ha
  refine ⟨_, answer_of_paged hr fresh (paged_of_validated hq hvalidated), hcalls, ?_⟩
  rw [response_completed, view_finished hr, hresponse, apply_ite Response.view, view_ofStatus, view_json]

lemma ofText_message_injective {cause other : Pagination.Rejection}
    (h : Header.ofText cause.message = Header.ofText other.message) : cause = other := by
  cases cause with
  | page =>
    cases other with
    | page => rfl
    | dateRange => exact absurd h (by decide)
  | dateRange =>
    cases other with
    | page => exact absurd h (by decide)
    | dateRange => rfl

theorem data_tier_answers (hb : t.backend = .records (Store.run changes).source listed)
    (hr : t.Serves kind r) (network : Network) (fresh : Bytes) :
    ∃ answer, t.answer network fresh r = .ok answer ∧ answer.calls = [] ∧
      answer.response.status ≠ 500 ∧
      (answer.response.status = 400 ∧ answer.response.body = Header.ofText "invalid page" ↔
        Pagination.ofQuery r.query = .error .page) ∧
      (answer.response.status = 400 ∧ answer.response.body = Header.ofText "invalid date range" ↔
        Pagination.ofQuery r.query = .error .dateRange) ∧
      ∀ q, Pagination.ofQuery r.query = .ok q →
        let found := Store.slice changes kind q
        let total := (Store.matching changes kind q.startDate q.endDate).length
        (answer.response.status = 404 ↔ found = [] ∧ kind ∈ listed) ∧
        (found = [] ∧ kind ∈ listed → answer.response.view = ⟨404, none, []⟩) ∧
        (¬ (found = [] ∧ kind ∈ listed) → answer.response.view =
          ⟨200, some (Header.ofText "application/json"),
            Header.ofText (pageJson kind q found total).render⟩) := by
  cases hq : Pagination.ofQuery r.query with
  | error cause =>
    obtain ⟨answer, hanswer, hcalls, hview⟩ := exists_answer_of_rejected hr hq fresh
    have hstatus : answer.response.status = 400 := congrArg View.status hview
    have hbody : answer.response.body = Header.ofText cause.message := congrArg View.body hview
    have hiff (other : Pagination.Rejection) : answer.response.status = 400 ∧
        answer.response.body = Header.ofText other.message ↔
          (.error cause : Except _ Pagination) = .error other := by
      rw [hbody, Except.error.injEq]
      refine ⟨fun h => ofText_message_injective h.2, ?_⟩
      rintro rfl
      exact ⟨hstatus, rfl⟩
    refine ⟨answer, hanswer network, hcalls, ?_, hiff .page, hiff .dateRange, ?_⟩
    · rw [hstatus]
      decide
    · rintro _ ⟨⟩
  | ok q =>
    obtain ⟨answer, hanswer, hcalls, hview⟩ := answer_of_records hb hr hq network fresh
    have hstatus := (congrArg View.status hview).trans (apply_ite View.status _ _ _)
    change answer.response.status = if _ then 404 else 200 at hstatus
    have hne (text : Bytes) (cause : Pagination.Rejection) : answer.response.status = 400 ∧
        answer.response.body = text ↔ (.ok q : Except _ Pagination) = .error cause := by
      constructor
      · rintro ⟨h, _⟩
        rw [hstatus] at h
        split at h
        · cases h
        · cases h
      · rintro ⟨⟩
    refine ⟨answer, hanswer, hcalls, ?_, hne _ _, hne _ _, ?_⟩
    · rw [hstatus]
      split
      · decide
      · decide
    · rintro _ ⟨⟩
      refine ⟨?_, fun h => hview.trans (if_pos h), fun h => hview.trans (if_neg h)⟩
      rw [hstatus]
      split
      · next h => exact iff_of_true rfl h
      · next h => exact iff_of_false (by decide) h

theorem data_tier_answers_far_page :
    let record : Json := .ofMembers [("recordInsertDatetime", .string "2024-02-29")]
    let changes : List Store.Change := [.insert .episodes record, .insert .profiles record]
    let t : Tier := ⟨.data, [([.literal 'e'], .paged .episodes), ([.literal 'p'], .paged .profiles)],
      .records (Store.run changes).source [.profiles]⟩
    let asking (path : Char) (query : String) : Request :=
      { target := { path := [path], query := some query.toList } }
    let far := asking 'e' "page=2147483647&pageSize=9999&startDate=2024-01-01&endDate=2024-12-31"
    let inverted := asking 'p' "page=1&startDate=2024-12-31&endDate=2024-01-01"
    t.backend = .records (Store.run changes).source [.profiles] ∧
      t.Serves .episodes far ∧ t.Serves .profiles inverted ∧
      ∃ answer missing, t.answer Network.unreachable [] far = .ok answer ∧
        answer.response.view = ⟨200, some (Header.ofText "application/json"), Header.ofText
          ("\x7b\"episodes\":[],\"hasMoreData\":false,\"page\":2147483647,\"pageSize\":5000," ++
            "\"totalPages\":1,\"totalResults\":1\x7d")⟩ ∧
        t.answer Network.unreachable [] inverted = .ok missing ∧
        missing.response.view = ⟨404, none, []⟩ := by
  intro record changes t asking far inverted
  have hfar : t.Serves .episodes far := ⟨rfl, by cbv⟩
  have hinverted : t.Serves .profiles inverted := ⟨rfl, by cbv⟩
  let q : Pagination := ⟨2147483647, 5000, ⟨⟨2024, 1, 1, by decide⟩, Calendar.Time.midnight⟩,
    ⟨⟨2024, 12, 31, by decide⟩, Calendar.Time.midnight⟩⟩
  let q' : Pagination := ⟨1, 1000, q.endDate, q.startDate⟩
  have hq : Pagination.ofQuery far.query = .ok q := by cbv
  have hq' : Pagination.ofQuery inverted.query = .ok q' := by cbv
  have hb : t.backend = .records (Store.run changes).source [.profiles] := rfl
  obtain ⟨answer, hanswer, _, _, _, _, hview⟩ :=
    data_tier_answers hb hfar Network.unreachable []
  obtain ⟨missing, hmissing, _, _, _, _, hview'⟩ :=
    data_tier_answers hb hinverted Network.unreachable []
  refine ⟨hb, hfar, hinverted, answer, missing, hanswer, ?_, hmissing, ?_⟩
  · have hslice : Store.slice changes .episodes q = [] := by cbv
    have hmatching : (Store.matching changes .episodes q.startDate q.endDate).length = 1 := by cbv
    have hunlisted : RecordKind.episodes ∉ [RecordKind.profiles] := by decide
    have htext : (pageJson .episodes q [] 1).render =
        "\x7b\"episodes\":[],\"hasMoreData\":false,\"page\":2147483647,\"pageSize\":5000," ++
          "\"totalPages\":1,\"totalResults\":1\x7d" := by cbv
    rw [(hview _ hq).2.2 fun h => hunlisted h.2, hslice, hmatching, htext]
  · have hslice : Store.slice changes .profiles q' = [] := by cbv
    exact (hview' _ hq').2.1 ⟨hslice, List.mem_singleton_self _⟩

end Tier

end TierRelay
