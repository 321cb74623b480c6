import TierRelay.Proofs.PageAnswers
import TierRelay.Proofs.RequestTarget

namespace TierRelay

open Http

inductive Outcome
  | page (status : Nat) (body : Bytes)
  | refused (status : Nat)
  | lost
  | unsent
  deriving DecidableEq

namespace Outcome

def response : Outcome → Response
  | page status body => ⟨status, [("content-type", Header.ofText "application/json")], body⟩
  | refused status => ⟨status, [], []⟩
  | lost => ⟨500, [], []⟩
  | unsent => ⟨500, [], []⟩

def reason? : Outcome → Option Reason
  | page _ _ => none
  | refused _ => some .refused
  | lost => some .transport
  | unsent => some .unsendable

def IsFailure (o : Outcome) : Prop :=
  o = lost ∨ o = unsent

lemma IsFailure.response_eq {o : Outcome} (h : o.IsFailure) : o.response = ⟨500, [], []⟩ := by
  rcases h with rfl | rfl
  · rfl
  · rfl

end Outcome

-- The status decides first: a refusal is one also where its body breaks off.
def Exchange.outcome : Exchange → Outcome
  | .failed _ => .lost
  | .answered reply complete =>
    if Status.isSuccess reply.status then
      if complete then .page reply.status reply.body else .lost
    else .refused reply.status

def Forward.outcome (network : Network) : Option Call → Outcome
  | none => .unsent
  | some call => if call.isHttp then (network call).outcome else .lost

lemma Forward.body_of_broken {network : Network} {call : Call} {reply : Response}
    (h : network call = .answered reply false) :
    (outcome network (some call)).response.body = [] := by
  rw [outcome, h, Exchange.outcome]
  cases call.isHttp with
  | false => rfl
  | true =>
    cases Status.isSuccess reply.status with
    | false => rfl
    | true => rfl

lemma Forward.call?_appendPairs {url : Url} {text : String} {target : Target} {q : Pagination}
    (htext : Url.parse text = .ok url) (htarget : Target.parse? url.text = some target)
    (hhttp : target.isHttp = true)
    (hfits : (url.appendPairs q.pairs).byteLength ≤ Target.lengthLimit) (id : String) :
    call? (url.appendPairs q.pairs) id = some
      ⟨"GET", { target with query := some (Query.Form.append (url.query.getD []) q.pairs) },
        headers id⟩ := by
  have hscheme : target.scheme ≠ none := by
    intro hnone
    rw [Target.isHttp, hnone] at hhttp
    cases hhttp
  rw [call?, Target.parse?_appendPairs (Url.isMarked_of_parse htext) htarget hscheme q.pairs hfits,
    Option.map_some]

lemma Forward.method_of_call? {url : Url} {id : String} {call : Call}
    (h : call? url id = some call) : call.method = "GET" := by
  obtain ⟨target, -, rfl⟩ := Option.map_eq_some_iff.mp h
  rfl

def Forward.reason? : Except ForwardError Retrieved → Option Reason
  | .ok _ => none
  | .error e => some e.reason

lemma Exchange.retrieved_eq (e : Exchange) :
    relay e.retrieved = e.outcome.response ∧ Forward.reason? e.retrieved = e.outcome.reason? := by
  cases e with
  | failed detail => exact ⟨rfl, rfl⟩
  | answered reply complete =>
    rw [retrieved, outcome]
    cases Status.isSuccess reply.status with
    | false => exact ⟨rfl, rfl⟩
    | true =>
      cases complete with
      | false => exact ⟨rfl, rfl⟩
      | true => exact ⟨rfl, rfl⟩

lemma View.IsPassedOn.outcome {reply : Response} (h : reply.view.IsPassedOn) :
    (Exchange.answered reply true).outcome.response.view = reply.view := by
  rcases h with ⟨hs, hc⟩ | ⟨hs, hc, hb⟩
  · change Status.isSuccess reply.status = true at hs
    rw [Exchange.outcome, if_pos hs, if_pos rfl]
    change View.mk reply.status _ reply.body = View.mk reply.status _ reply.body
    congr 1
    exact hc.symm
  · change Status.isSuccess reply.status = false at hs
    rw [Exchange.outcome, hs, if_neg Bool.false_ne_true]
    change View.mk reply.status none [] = View.mk reply.status _ reply.body
    congr 1
    · exact hc.symm
    · exact hb.symm

lemma forward_eq (network : Network) (url : Url) (id : String) :
    (forward network url id).1 = ((Forward.call? url id).filter Call.isHttp).toList ∧
      relay (forward network url id).2 =
        (Forward.outcome network (Forward.call? url id)).response ∧
      Forward.reason? (forward network url id).2 =
        (Forward.outcome network (Forward.call? url id)).reason? := by
  simp only [forward]
  cases Forward.call? url id with
  | none => exact ⟨rfl, rfl, rfl⟩
  | some call =>
    rw [Option.filter_some, Forward.outcome]
    dsimp only
    cases call.isHttp with
    | false => exact ⟨rfl, rfl, rfl⟩
    | true => exact ⟨rfl, (network call).retrieved_eq⟩

namespace Tier

variable {t : Tier} {urls : PerKind Url} {kind : RecordKind} {r : Request} {q : Pagination}

def attempt (urls : PerKind Url) (kind : RecordKind) (q : Pagination) (id : String) : Option Call :=
  Forward.call? ((urls.get kind).appendPairs q.pairs) id

lemma forwarded_spec (role : Role) (network : Network) (urls : PerKind Url) (kind : RecordKind)
    (id : String) (q : Pagination) :
    let outcome := Forward.outcome network (attempt urls kind q id)
    (forwarded role network urls kind id q).calls =
        ((attempt urls kind q id).filter Call.isHttp).toList ∧
      (forwarded role network urls kind id q).response = outcome.response ∧
      (forwarded role network urls kind id q).observed =
        outcome.reason?.toList.map (Observation.failure role kind) := by
  obtain ⟨hcalls, hresponse, hreason⟩ := forward_eq network ((urls.get kind).appendPairs q.pairs) id
  rw [attempt]
  dsimp only
  rw [← hcalls, ← hresponse, ← hreason, forwarded]
  dsimp only
  cases (forward network ((urls.get kind).appendPairs q.pairs) id).2 with
  | ok page => exact ⟨rfl, rfl, rfl⟩
  | error e => exact ⟨rfl, rfl, rfl⟩

lemma answer_of_forwarded (hb : t.backend = .next urls) (hr : t.Serves kind r)
    (hq : Pagination.ofQuery r.query = .ok q) (network : Network) (fresh : Bytes) :
    ∃ answer, t.answer network fresh r = .ok answer ∧
      answer.calls = ((attempt urls kind q (idText fresh r)).filter Call.isHttp).toList ∧
      answer.response = finished fresh r
        (Forward.outcome network (attempt urls kind q (idText fresh r))).response := by
  obtain ⟨hcalls, hresponse, _⟩ := forwarded_spec t.role network urls kind (idText fresh r) q
  have hvalidated : t.validated network kind (idText fresh r) q =
      .ok (forwarded t.role network urls kind (idText fresh r) q) := by
    rw [validated, hb]
  refine ⟨_, answer_of_paged hr fresh (paged_of_validated hq hvalidated), ?_, ?_⟩
  · rw [calls_completed, hcalls]
  · rw [response_completed, hresponse]

theorem forwarding_contract (hb : t.backend = .next urls) (hr : t.Serves kind r) (fresh : Bytes) :
    (∀ cause, Pagination.ofQuery r.query = .error cause →
      ∃ answer, (∀ network, t.answer network fresh r = .ok answer) ∧ answer.calls = [] ∧
        answer.response.view = ⟨400, some (Header.ofText "text/plain; charset=utf-8"),
          Header.ofText cause.message⟩) ∧
    ∀ q, Pagination.ofQuery r.query = .ok q →
      ∃ attempt : Option Call,
        attempt.map Call.target = Target.parse? ((urls.get kind).appendPairs q.pairs).text ∧
        (∀ call, attempt = some call → call.request.method = "GET") ∧
        ∀ network, ∃ answer, t.answer network fresh r = .ok answer ∧
          answer.calls = (attempt.filter Call.isHttp).toList ∧
          answer.response.view = (Forward.outcome network attempt).response.view ∧
          (∀ call reply, attempt = some call → network call = .answered reply false →
            answer.response.body = []) ∧
          ∀ others : Network, Forward.outcome others attempt = Forward.outcome network attempt ∨
              (Forward.outcome others attempt).IsFailure ∧
                (Forward.outcome network attempt).IsFailure →
            ∃ other, t.answer others fresh r = .ok other ∧ other.response = answer.response := by
  constructor
  · intro cause hq
    exact exists_answer_of_rejected hr hq fresh
  intro q hq
  refine ⟨attempt urls kind q (idText fresh r), ?_, fun _ => Forward.method_of_call?, ?_⟩
  · rw [attempt, Forward.call?, Option.map_map]
    exact Option.map_id'
  intro network
  obtain ⟨answer, hanswer, hcalls, hresponse⟩ := answer_of_forwarded hb hr hq network fresh
  have hview : answer.response.view =
      (Forward.outcome network (attempt urls kind q (idText fresh r))).response.view := by
    rw [hresponse, view_finished hr]
  refine ⟨answer, hanswer, hcalls, hview, ?_, ?_⟩
  · intro call reply hattempt hbroken
    have hbody := congrArg View.body hview
    rw [hattempt] at hbody
    exact hbody.trans (Forward.body_of_broken hbroken)
  · intro others hsame
    obtain ⟨other, hother, _, hresponse'⟩ := answer_of_forwarded hb hr hq others fresh
    refine ⟨other, hother, ?_⟩
    rw [hresponse', hresponse]
    rcases hsame with hsame | ⟨hothers, hnetwork⟩
    · rw [hsame]
    · rw [hothers.response_eq, hnetwork.response_eq]

theorem forwarding_contract_broken_bodies :
    let url : Url := ⟨"http".toList, some { host := .name ['d'] }, .segments [['d']], none, none⟩
    let t : Tier :=
      ⟨.business, [([.literal '/', .literal 'b'], .paged .episodes)], .next ⟨url, url⟩⟩
    let query := some "page=1&startDate=2024-02-29&endDate=2024-03-01".toList
    let r : Request := { target := { path := ['/', 'b'], query } }
    let replying (status : Nat) (complete : Bool) : Network :=
      fun _ => .answered ⟨status, [("content-type", [1])], [0x7B, 0x7D]⟩ complete
    t.backend = .next ⟨url, url⟩ ∧ t.Serves .episodes r ∧
      ∃ refused broken whole, t.answer (replying 404 false) [] r = .ok refused ∧
        refused.response.view = ⟨404, none, []⟩ ∧
        t.answer (replying 200 false) [] r = .ok broken ∧
        broken.response.view = ⟨500, none, []⟩ ∧
        t.answer (replying 206 true) [] r = .ok whole ∧
        whole.response.view =
          ⟨206, some (Header.ofText "application/json"), [0x7B, 0x7D]⟩ := by
  intro url t query r replying
  let q : Pagination := ⟨1, 1000, ⟨⟨2024, 2, 29, by decide⟩, Calendar.Time.midnight⟩,
    ⟨⟨2024, 3, 1, by decide⟩, Calendar.Time.midnight⟩⟩
  have hr : t.Serves .episodes r := ⟨rfl, by cbv⟩
  have hq : Pagination.ofQuery r.query = .ok q := by cbv
  have hb : t.backend = .next ⟨url, url⟩ := rfl
  obtain ⟨attempt, htarget, _, hanswer⟩ := (forwarding_contract hb hr []).2 q hq
  have htext : Url.parse "http://d/d" = .ok url := by cbv
  have hbase : Target.parse? url.text = some ⟨some "http".toList, ['d'], ['/', 'd'], none⟩ := by cbv
  have hlength : url.byteLength + 1201 ≤ Target.lengthLimit := by cbv
  have hparsed := Target.parse?_appendPairs (Url.isMarked_of_parse htext) hbase (by decide) q.pairs
    (Nat.le_trans (url.byteLength_appendPairs_le q) hlength)
  obtain ⟨call, rfl, hcall⟩ := Option.map_eq_some_iff.mp (htarget.trans hparsed)
  have hhttp : call.isHttp = true := by
    rw [Call.isHttp, hcall]
    cbv
  have houtcome (network : Network) :
      Forward.outcome network (some call) = (network call).outcome := if_pos hhttp
  obtain ⟨refused, hrefused, _, hview, _⟩ := hanswer (replying 404 false)
  obtain ⟨broken, hbroken, _, hview', _⟩ := hanswer (replying 200 false)
  obtain ⟨whole, hwhole, _, hview'', _⟩ := hanswer (replying 206 true)
  rw [houtcome] at hview hview' hview''
  exact ⟨hb, hr, refused, broken, whole, hrefused, hview, hbroken, hview', hwhole, hview''⟩

end Tier

end TierRelay
