import TierRelay.Proofs.Dispatch
import TierRelay.Proofs.PageParameters
import TierRelay.Proofs.PageReading

namespace TierRelay

open Http

structure View where
  status : Nat
  contentType : Option Bytes
  body : Bytes
  deriving DecidableEq

def Http.Response.view (r : Response) : View :=
  ⟨r.status, r.headers.first? "content-type", r.body⟩

lemma view_withHeader (r : Response) {name : String} (h : name ≠ "content-type") (value : Bytes) :
    (r.withHeader name value).view = r.view := by
  have hlookup : Headers.first? "content-type" (r.headers ++ [(name, value)]) =
      r.headers.first? "content-type" := by
    have hne : ("content-type" == name) = false := beq_eq_false_iff_ne.mpr (Ne.symm h)
    rw [Headers.first?, List.lookup_append, List.lookup_cons, hne, List.lookup_nil, Option.or_none,
      Headers.first?]
  rw [Response.view, Response.withHeader, hlookup, Response.view]

lemma view_json (status : Nat) (body : Bytes) : (Response.json status body).view =
    ⟨status, some (Header.ofText "application/json"), body⟩ := rfl

lemma view_ofStatus (status : Nat) : (Response.ofStatus status).view = ⟨status, none, []⟩ := rfl

def View.IsPassedOn (v : View) : Prop :=
  Status.isSuccess v.status = true ∧ v.contentType = some (Header.ofText "application/json") ∨
    Status.isSuccess v.status = false ∧ v.contentType = none ∧ v.body = []

lemma RecordPage.body_eq {p : RecordPage} (hsize : 1 ≤ p.pageSize.toNat)
    (hfits : p.skip.toNat + p.pageSize.toNat < UInt64.size) :
    p.body = .ok (.ok (Json.render (.ofMembers
      [("page", .ofNat p.page.toNat), ("pageSize", .ofNat p.pageSize.toNat),
        ("totalResults", .ofNat p.total),
        ("totalPages", .ofNat (pageCount p.total p.pageSize.toNat)),
        ("hasMoreData", .bool (decide (p.skip.toNat + p.pageSize.toNat < p.total))),
        (p.kind.name, .array p.items)]))) := by
  rw [body, json, totalPages_eq hsize, hasMoreData_eq hfits]
  rfl

def pageJson (kind : RecordKind) (q : Pagination) (items : List Json) (total : Nat) : Json :=
  .ofMembers [("page", .ofNat q.page.toNat), ("pageSize", .ofNat q.pageSize.toNat),
    ("totalResults", .ofNat total),
    ("totalPages", .ofNat (RecordPage.pageCount total q.pageSize.toNat)),
    ("hasMoreData", .bool (decide (q.page.toNat * q.pageSize.toNat < total))),
    (kind.name, .array items)]

lemma RecordPage.body_ofSlice {q : Pagination} {skip : UInt64} (hq : q.IsValid)
    (hskip : skip.toNat = (q.page.toNat - 1) * q.pageSize.toNat) (kind : RecordKind)
    (slice : Store.Slice) :
    (ofSlice kind q skip slice).body =
      .ok (.ok (pageJson kind q slice.items slice.total).render) := by
  obtain ⟨hend, hfits⟩ := Pagination.pageEnd_eq hq.page_pos hskip
  rw [body_eq (p := ofSlice kind q skip slice) hq.pageSize_pos hfits, pageJson, ← hend]
  rfl

namespace Tier

variable {source : Source} {listed : List RecordKind} {kind : RecordKind} {q : Pagination}
  {skip : UInt64}

lemma fromRecords_of_error {cause : Store.Error} (hskip : q.rowsToSkip = .ok skip)
    (hs : source kind q skip = .error cause) (id : String) : fromRecords source listed kind id q =
      .ok { response := Response.internalError, events := [.storeFailed id kind cause] } := by
  simp only [fromRecords, hskip, hs, bind, Except.bind]
  rfl

lemma fromRecords_of_empty {slice : Store.Slice} (hskip : q.rowsToSkip = .ok skip)
    (hs : source kind q skip = .ok slice)
    (hempty : (RecordPage.ofSlice kind q skip slice).isEmpty = true ∧ kind ∈ listed)
    (id : String) : fromRecords source listed kind id q =
      .ok { response := Response.ofStatus 404, events := [.nothingFound id kind] } := by
  simp only [fromRecords, hskip, hs, bind, Except.bind]
  rw [if_pos hempty]
  rfl

lemma fromRecords_of_page {slice : Store.Slice} {text : String} (hskip : q.rowsToSkip = .ok skip)
    (hs : source kind q skip = .ok slice)
    (hempty : ¬ ((RecordPage.ofSlice kind q skip slice).isEmpty = true ∧ kind ∈ listed))
    (hbody : (RecordPage.ofSlice kind q skip slice).body = .ok (.ok text)) (id : String) :
    fromRecords source listed kind id q =
      .ok { response := Response.json 200 (Header.ofText text),
            events := [.found id kind slice.items.length slice.total] } := by
  simp only [fromRecords, hskip, hs, bind, Except.bind]
  rw [if_neg hempty]
  simp only [hbody]
  rfl

lemma exists_fromRecords_of_slice {slice : Store.Slice} (listed : List RecordKind)
    (hq : q.IsValid) (hskip : q.rowsToSkip = .ok skip)
    (hnat : skip.toNat = (q.page.toNat - 1) * q.pageSize.toNat)
    (hs : source kind q skip = .ok slice) (id : String) :
    ∃ a, fromRecords source listed kind id q = .ok a ∧ a.calls = [] ∧
      a.response = if slice.items = [] ∧ kind ∈ listed then Response.ofStatus 404
        else Response.json 200 (Header.ofText (pageJson kind q slice.items slice.total).render) := by
  have hiff : (RecordPage.ofSlice kind q skip slice).isEmpty = true ↔ slice.items = [] :=
    List.isEmpty_iff
  by_cases hempty : (RecordPage.ofSlice kind q skip slice).isEmpty = true ∧ kind ∈ listed
  · rw [if_pos (hempty.imp_left hiff.mp)]
    exact ⟨_, fromRecords_of_empty hskip hs hempty id, rfl, rfl⟩
  · rw [if_neg (mt (And.imp_left hiff.mpr) hempty)]
    have hbody := RecordPage.body_ofSlice hq hnat kind slice
    exact ⟨_, fromRecords_of_page hskip hs hempty hbody id, rfl, rfl⟩

-- A data tier never fails on a valid pagination, and its response does not depend on the id.
lemma exists_fromRecords (source : Source) (listed : List RecordKind) (kind : RecordKind)
    (hq : q.IsValid) : ∃ response : Response, response.view.IsPassedOn ∧
      ∀ id, ∃ a, fromRecords source listed kind id q = .ok a ∧ a.response = response ∧
        a.calls = [] := by
  obtain ⟨skip, hskip, hnat⟩ := Pagination.rowsToSkip_eq hq.page_pos
  cases hs : source kind q skip with
  | error cause =>
    refine ⟨Response.internalError, .inr ⟨by decide, rfl, rfl⟩, ?_⟩
    intro id
    exact ⟨_, fromRecords_of_error hskip hs id, rfl, rfl⟩
  | ok slice =>
    refine ⟨if slice.items = [] ∧ kind ∈ listed then Response.ofStatus 404
      else Response.json 200 (Header.ofText (pageJson kind q slice.items slice.total).render),
      ?_, ?_⟩
    · split
      · exact .inr ⟨by decide, rfl, rfl⟩
      · exact .inl ⟨(by decide : Status.isSuccess 200 = true), rfl⟩
    · intro id
      obtain ⟨a, ha, hcalls, hresponse⟩ := exists_fromRecords_of_slice listed hq hskip hnat hs id
      exact ⟨a, ha, hresponse, hcalls⟩

lemma calls_forwarded (role : Role) (network : Network) (urls : PerKind Url) (kind : RecordKind)
    (id : String) (q : Pagination) : (forwarded role network urls kind id q).calls =
      (forward network ((urls.get kind).appendPairs q.pairs) id).1 := by
  rw [forwarded]

structure Serves (t : Tier) (kind : RecordKind) (r : Request) : Prop where
  method : r.method = "GET"
  route : t.routes.find? r.target.path = some (.paged kind)

variable {t : Tier} {r : Request}

lemma Serves.reaches (h : t.Serves kind r) : t.Reaches kind r :=
  ⟨.inl h.method, h.route⟩

lemma view_finished (h : t.Serves kind r) (fresh : Bytes) (response : Response) :
    (finished fresh r response).view = response.view := by
  have hmethod : ¬ r.method = "HEAD" := by
    rw [h.method]
    decide
  rw [finished, if_neg hmethod, view_withHeader _ (by decide), Response.withLength,
    view_withHeader _ (by decide)]

lemma answer_of_paged {network : Network} {a : Answer} (h : t.Serves kind r) (fresh : Bytes)
    (ha : t.paged network kind (idText fresh r) r.query = .ok a) :
    t.answer network fresh r = .ok (completed fresh r a) := by
  rw [answer_of_reaches h.reaches, ha]
  rfl

lemma paged_of_validated {network : Network} {id query : String} {a : Answer}
    (hq : Pagination.ofQuery query = .ok q) (ha : t.validated network kind id q = .ok a) :
    t.paged network kind id query = .ok { a with
      events := .started id t.role kind :: a.events
      observed := a.observed ++
        [.request t.role kind a.response.status, .duration t.role kind] } := by
  simp only [paged, hq, ha, bind, Except.bind]
  rfl

lemma paged_of_rejected {query : String} {cause : Pagination.Rejection}
    (hq : Pagination.ofQuery query = .error cause) (network : Network) (id : String) :
    t.paged network kind id query = .ok {
      response := Response.plain 400 cause.message
      events := [.started id t.role kind, .rejected id t.role kind cause]
      observed := [.request t.role kind 400, .duration t.role kind] } := by
  simp only [paged, hq, bind, Except.bind]
  rfl

lemma exists_answer_of_rejected {cause : Pagination.Rejection} (h : t.Serves kind r)
    (hq : Pagination.ofQuery r.query = .error cause) (fresh : Bytes) :
    ∃ answer, (∀ network, t.answer network fresh r = .ok answer) ∧ answer.calls = [] ∧
      answer.response.view = (Response.plain 400 cause.message).view :=
  ⟨_, fun network => answer_of_paged h fresh (paged_of_rejected hq network _), rfl,
    view_finished h fresh _⟩

lemma exists_validated (t : Tier) (network : Network) (kind : RecordKind) (id : String)
    (hq : q.IsValid) : ∃ a, t.validated network kind id q = .ok a := by
  simp only [validated]
  split
  · exact ⟨_, rfl⟩
  · next source listed _ =>
    obtain ⟨_, _, h⟩ := exists_fromRecords source listed kind hq
    obtain ⟨a, ha, _⟩ := h id
    exact ⟨a, ha⟩

lemma forward_congr {network others : Network} {url : Url} {id : String}
    (h : ∀ call ∈ (forward network url id).1, others call = network call) :
    forward others url id = forward network url id := by
  simp only [forward] at h ⊢
  split
  · rfl
  · next call hcall =>
    rw [hcall] at h
    dsimp only at h
    split
    · next hhttp =>
      rw [if_pos hhttp] at h
      rw [h call (List.mem_singleton_self call)]
    · rfl

lemma validated_congr {network others : Network} {id : String} {a : Answer}
    (ha : t.validated network kind id q = .ok a)
    (h : ∀ call ∈ a.calls, others call = network call) :
    t.validated others kind id q = .ok a := by
  simp only [validated] at ha ⊢
  split at ha
  · next urls _ =>
    obtain rfl := Except.ok.inj ha
    rw [calls_forwarded] at h
    rw [forwarded, forward_congr h, ← forwarded]
  · exact ha

lemma answer_congr {network others : Network} {fresh : Bytes} {answer : Answer}
    (hr : t.Serves kind r) (ha : t.answer network fresh r = .ok answer)
    (h : ∀ call ∈ answer.calls, others call = network call) :
    t.answer others fresh r = .ok answer := by
  cases hq : Pagination.ofQuery r.query with
  | error cause =>
    obtain ⟨_, hanswer, _⟩ := exists_answer_of_rejected hr hq fresh
    rw [hanswer others, ← hanswer network, ha]
  | ok q =>
    obtain ⟨a, hvalidated⟩ := exists_validated t network kind (idText fresh r)
      (Pagination.isValid_of_parse hq)
    have hanswer := answer_of_paged hr fresh (paged_of_validated hq hvalidated)
    obtain rfl := Except.ok.inj (hanswer.symm.trans ha)
    exact answer_of_paged hr fresh (paged_of_validated hq (validated_congr hvalidated h))

end Tier

end TierRelay
