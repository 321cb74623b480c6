import Mathlib
import TierRelay.Chain
import TierRelay.Proofs.ForwardingContract

/-!
Tiers stacked on a data tier. Whoever asks the outermost tier for a page is answered as the data tier
would have answered, and a query that validates reaches every tier, each time as the same pagination.
-/

namespace TierRelay

open Http Text

/-- A client takes the URL, also with the four parameters added, and its path is the route of a kind
at the next tier. -/
structure Url.LeadsTo (url : Url) (next : Tier) (kind : RecordKind) : Prop where
  parsed : ∃ text, Url.parse text = .ok url
  target : ∃ target, Target.parse? url.text = some target ∧ target.isHttp = true ∧
    next.routes.find? target.path = some (.paged kind)
  fits : ∀ q : Pagination, q.IsValid → (url.appendPairs q.pairs).byteLength ≤ Target.lengthLimit

lemma Url.leadsTo_of_byteLength {text : String} {url : Url} {target : Target} {next : Tier}
    {kind : RecordKind} (htext : Url.parse text = .ok url)
    (htarget : Target.parse? url.text = some target) (hhttp : target.isHttp = true)
    (hroute : next.routes.find? target.path = some (.paged kind))
    (hlength : url.byteLength + 1201 ≤ Target.lengthLimit) : url.LeadsTo next kind where
  parsed := ⟨text, htext⟩
  target := ⟨target, htarget, hhttp, hroute⟩
  fits q _ := Nat.le_trans (url.byteLength_appendPairs_le q) hlength

lemma Url.LeadsTo.exists_call {url : Url} {next : Tier} {kind : RecordKind} {q : Pagination}
    (h : url.LeadsTo next kind) (hq : q.IsValid) (id : String) :
    ∃ call, Forward.call? (url.appendPairs q.pairs) id = some call ∧ call.isHttp = true ∧
      next.Serves kind call.request ∧ Pagination.ofQuery call.request.query = .ok q := by
  obtain ⟨text, htext⟩ := h.parsed
  obtain ⟨target, htarget, hhttp, hroute⟩ := h.target
  refine ⟨_, Forward.call?_appendPairs htext htarget hhttp (h.fits q hq) id, hhttp,
    ⟨rfl, hroute⟩, ?_⟩
  have hpairs : Query.Form.pairs (Query.Form.append (url.query.getD []) q.pairs) =
      url.pairs ++ q.pairs := pairs_appendPairs url q.pairs
  rw [Pagination.ofQuery, Pagination.Parameters.ofQuery, Request.query, String.toList_ofList]
  change Pagination.parse (.ofPairs (Query.Form.pairs (Query.Form.append _ _))) = _
  rw [hpairs]
  exact Pagination.parse_append_pairs hq url.pairs

namespace Chain

variable {kind : RecordKind} {data outer : Tier} {below : List Tier}

inductive Stacked (kind : RecordKind) (data : Tier) : Tier → List Tier → Prop
  | data {source : Source} {listed : List RecordKind} :
      data.backend = .records source listed → Stacked kind data data []
  | next {t next : Tier} {below : List Tier} {urls : PerKind Url} : t.backend = .next urls →
      (urls.get kind).LeadsTo next kind → Stacked kind data next below →
      Stacked kind data t (next :: below)

/-- The requests that the tiers receive, one after another, when the first of them receives one. -/
def received (behind : Network) (fresh : Bytes) : List Tier → Request → List Request
  | [], _ => []
  | t :: below, r => r :: match t.answer (network below behind fresh) fresh r with
    | .error _ => []
    | .ok answer => answer.calls.flatMap fun call => received behind fresh below call.request

lemma received_cons {t : Tier} {behind : Network} {fresh : Bytes} {r : Request} {answer : Answer}
    (h : t.answer (network below behind fresh) fresh r = .ok answer) :
    received behind fresh (t :: below) r =
      r :: answer.calls.flatMap fun call => received behind fresh below call.request := by
  rw [received, h]

lemma Stacked.exists_backend (h : Stacked kind data outer below) :
    ∃ source listed, data.backend = .records source listed := by
  induction h with
  | data hb => exact ⟨_, _, hb⟩
  | next _ _ _ ih => exact ih

lemma exists_answer_of_next {t next : Tier} {urls : PerKind Url} {q : Pagination}
    (hb : t.backend = .next urls) (hl : (urls.get kind).LeadsTo next kind) {r : Request}
    (hr : t.Serves kind r) (hq : Pagination.ofQuery r.query = .ok q) (fresh : Bytes) :
    ∃ call, next.Serves kind call.request ∧ Pagination.ofQuery call.request.query = .ok q ∧
      ∀ (network : Network) (reply : Response), network call = .answered reply true →
        reply.view.IsPassedOn → ∃ answer, t.answer network fresh r = .ok answer ∧
          answer.calls = [call] ∧ answer.response.view = reply.view := by
  obtain ⟨call, hcall, hhttp, hserves, hquery⟩ :=
    hl.exists_call (Pagination.isValid_of_parse hq) (Tier.idText fresh r)
  refine ⟨call, hserves, hquery, ?_⟩
  intro network reply hreply hview
  obtain ⟨answer, hanswer, hmade, hresponse⟩ := Tier.answer_of_forwarded hb hr hq network fresh
  rw [Tier.attempt, hcall] at hmade hresponse
  refine ⟨answer, hanswer, ?_, ?_⟩
  · rw [hmade, Option.filter_some, if_pos hhttp, Option.toList_some]
  · rw [hresponse, Tier.view_finished hr, Forward.outcome, if_pos hhttp, hreply, hview.outcome]

lemma exists_answer_of_stacked {source : Source} {listed : List RecordKind}
    (hb : data.backend = .records source listed) {q : Pagination} {response : Response}
    (hpassed : response.view.IsPassedOn)
    (hfound : ∀ id, ∃ a, Tier.fromRecords source listed kind id q = .ok a ∧
      a.response = response ∧ a.calls = [])
    (behind : Network) (fresh : Bytes) (h : Stacked kind data outer below) {r : Request}
    (hr : outer.Serves kind r) (hq : Pagination.ofQuery r.query = .ok q) :
    ∃ answer, outer.answer (network below behind fresh) fresh r = .ok answer ∧
      answer.response.view = response.view ∧
      List.Forall₂ (fun t r => t.Serves kind r ∧ Pagination.ofQuery r.query = .ok q)
        (outer :: below) (received behind fresh (outer :: below) r) := by
  induction h generalizing r with
  | data _ =>
    obtain ⟨a, ha, hresponse, hcalls⟩ := hfound (Tier.idText fresh r)
    have hvalidated : data.validated (network [] behind fresh) kind (Tier.idText fresh r) q =
        .ok a := by
      rw [Tier.validated, hb]
      exact ha
    have hok := Tier.answer_of_paged hr fresh (Tier.paged_of_validated hq hvalidated)
    refine ⟨_, hok, ?_, ?_⟩
    · rw [Tier.response_completed, Tier.view_finished hr, hresponse]
    · rw [received_cons hok, Tier.calls_completed, hcalls]
      exact .cons ⟨hr, hq⟩ .nil
  | @next t next below urls hnext hleads _ ih =>
    obtain ⟨call, hserves, hquery, hback⟩ := exists_answer_of_next hnext hleads hr hq fresh
    obtain ⟨reply, hreply, hview, hrest⟩ := ih hserves hquery
    have hnetwork : network (next :: below) behind fresh call = .answered reply.response true := by
      change next.network (network below behind fresh) fresh call = _
      rw [Tier.network, hreply]
    obtain ⟨answer, hok, hcalls, hanswer⟩ := hback (network (next :: below) behind fresh)
      reply.response hnetwork (by rw [hview]; exact hpassed)
    refine ⟨answer, hok, hanswer.trans hview, ?_⟩
    rw [received_cons hok, hcalls, List.flatMap_singleton]
    exact .cons ⟨hr, hq⟩ hrest

theorem transparent (h : Stacked kind data outer below) {r direct : Request}
    (hr : outer.Serves kind r) (hd : data.Serves kind direct) (hsame : direct.query = r.query)
    (behind alone : Network) (fresh fresh' : Bytes) :
    ∃ answer reference, outer.answer (network below behind fresh) fresh r = .ok answer ∧
      data.answer alone fresh' direct = .ok reference ∧
      answer.response.view = reference.response.view ∧
      (∀ others : Network, (∀ call ∈ answer.calls,
          others call = network below behind fresh call) →
        outer.answer others fresh r = .ok answer) ∧
      (∀ cause, Pagination.ofQuery r.query = .error cause →
        answer.calls = [] ∧ received behind fresh (outer :: below) r = [r]) ∧
      ∀ q, Pagination.ofQuery r.query = .ok q →
        List.Forall₂ (fun t r => t.Serves kind r ∧ Pagination.ofQuery r.query = .ok q)
          (outer :: below) (received behind fresh (outer :: below) r) := by
  cases hq : Pagination.ofQuery r.query with
  | error cause =>
    obtain ⟨answer, hanswer, hcalls, hview⟩ := Tier.exists_answer_of_rejected hr hq fresh
    obtain ⟨reference, hreference, _, hview'⟩ :=
      Tier.exists_answer_of_rejected hd (hsame ▸ hq) fresh'
    refine ⟨answer, reference, hanswer _, hreference alone, hview.trans hview'.symm, ?_, ?_, ?_⟩
    · exact fun others _ => hanswer others
    · rintro _ _
      refine ⟨hcalls, ?_⟩
      rw [received_cons (hanswer _), hcalls]
      rfl
    · rintro _ ⟨⟩
  | ok q =>
    obtain ⟨source, listed, hb⟩ := h.exists_backend
    obtain ⟨response, hpassed, hfound⟩ :=
      Tier.exists_fromRecords source listed kind (Pagination.isValid_of_parse hq)
    obtain ⟨answer, hok, hview, hall⟩ :=
      exists_answer_of_stacked hb hpassed hfound behind fresh h hr hq
    obtain ⟨reference, hreference, hview', _⟩ :=
      exists_answer_of_stacked hb hpassed hfound alone fresh' (.data hb) hd (hsame ▸ hq)
    refine ⟨answer, reference, hok, hreference, hview.trans hview'.symm, ?_, ?_, ?_⟩
    · exact fun others hsame => Tier.answer_congr hr hok hsame
    · rintro _ ⟨⟩
    · rintro _ ⟨⟩
      exact hall

theorem transparent_three_tiers :
    let routes (c : Char) : Routes := [([.literal '/', .literal c], .paged .episodes)]
    let record : Json := .ofMembers [("recordInsertDatetime", .string "2024-02-29")]
    let url (host path : List Char) (query fragment : Option (List Char)) : Url :=
      ⟨"http".toList, some { host := .name host }, .segments [path], query, fragment⟩
    let toManagement := url ['m'] ['m'] (some "page=9&x=1".toList) (some ['f'])
    let toData := url ['d'] ['d'] none none
    let business : Tier := ⟨.business, routes 'b', .next ⟨toManagement, toManagement⟩⟩
    let management : Tier := ⟨.management, routes 'm', .next ⟨toData, toData⟩⟩
    let data : Tier :=
      ⟨.data, routes 'd', .records (Store.empty.insert .episodes record).source [.episodes]⟩
    let query := some "page=+1&startDate=2024-02-29&endDate=31%2F12%2F2024+23:59".toList
    let r : Request := { target := { path := ['/', 'b'], query } }
    let direct : Request := { target := { path := ['/', 'd'], query } }
    (received Network.unreachable [] [business, management, data] r).length = 3 ∧
      ∃ answer reference,
        business.answer (network [management, data] Network.unreachable []) [] r = .ok answer ∧
        data.answer Network.unreachable [] direct = .ok reference ∧
        answer.response.view = reference.response.view := by
  intro routes record url toManagement toData business management data query r direct
  have hm : toManagement.LeadsTo management .episodes := by
    have htext : Url.parse "http://m/m?page=9&x=1#f" = .ok toManagement := by cbv
    have htarget : Target.parse? toManagement.text = some
        ⟨some "http".toList, ['m'], ['/', 'm'], some "page=9&x=1".toList⟩ := by cbv
    exact Url.leadsTo_of_byteLength htext htarget (by cbv) (by cbv) (by cbv)
  have hd : toData.LeadsTo data .episodes := by
    have htext : Url.parse "http://d/d" = .ok toData := by cbv
    have htarget : Target.parse? toData.text = some
        ⟨some "http".toList, ['d'], ['/', 'd'], none⟩ := by cbv
    exact Url.leadsTo_of_byteLength htext htarget (by cbv) (by cbv) (by cbv)
  have hstack : Stacked .episodes data business [management, data] :=
    .next rfl hm (.next rfl hd (.data rfl))
  have hr : business.Serves .episodes r := ⟨rfl, by cbv⟩
  have hdirect : data.Serves .episodes direct := ⟨rfl, by cbv⟩
  obtain ⟨answer, reference, hok, hreference, hview, _, _, hall⟩ :=
    transparent hstack hr hdirect rfl Network.unreachable Network.unreachable [] []
  refine ⟨?_, answer, reference, hok, hreference, hview⟩
  have hq : ∃ q, Pagination.ofQuery r.query = .ok q := ⟨_, by cbv⟩
  obtain ⟨q, hq⟩ := hq
  exact (hall q hq).length_eq.symm

end Chain

end TierRelay
