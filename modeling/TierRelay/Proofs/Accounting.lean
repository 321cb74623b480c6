import TierRelay.Proofs.ForwardingContract
import TierRelay.Proofs.StableSort
import TierRelay.Tier.Run

/-!
Each request that reaches a paged endpoint is counted once, under the status that it was answered
with, and a failed forward once more under its reason; nothing else is counted, so the order of the
requests does not matter.
-/

namespace TierRelay

open Http

namespace Observation

def ofAnswer (role : Role) (kind : RecordKind) (failed : Option Reason) (status : Nat) :
    List Observation :=
  failed.toList.map (failure role kind) ++ [request role kind status, duration role kind]

variable {role : Role} {kind k : RecordKind} {failed : Option Reason} {reason : Reason}
  {status code : Nat}

lemma count_request_ofAnswer : (ofAnswer role k failed code).count (request role kind status) =
    if k = kind ∧ code = status then 1 else 0 := by
  cases failed with
  | none => simp [ofAnswer, List.count_cons]
  | some cause => simp [ofAnswer, List.count_cons]

lemma count_duration_ofAnswer : (ofAnswer role k failed code).count (duration role kind) =
    if k = kind then 1 else 0 := by
  cases failed with
  | none => simp [ofAnswer, List.count_cons]
  | some cause => simp [ofAnswer, List.count_cons]

lemma count_failure_ofAnswer : (ofAnswer role k failed code).count (failure role kind reason) =
    if k = kind ∧ failed = some reason then 1 else 0 := by
  cases failed with
  | none => simp [ofAnswer]
  | some cause => simp [ofAnswer, List.count_cons]

end Observation

namespace Metrics

lemma nodup_eraseDups (m : Metrics) : m.eraseDups.Nodup := by
  induction h : m.length using Nat.strong_induction_on generalizing m with
  | _ n ih =>
    cases m with
    | nil => exact List.nodup_nil
    | cons o m =>
      subst h
      rw [List.eraseDups_cons, List.nodup_cons]
      constructor
      · simp
      · exact ih _ (Nat.lt_succ_of_le (List.length_filter_le _ m)) _ rfl

lemma isTotalPreorder_le : StableSort.IsTotalPreorder fun a b : String => decide (a ≤ b) where
  trans a b c := by
    simp only [decide_eq_true_eq]
    exact String.le_trans
  total a b := by
    simp only [Bool.or_eq_true, decide_eq_true_eq]
    exact String.le_total a b

-- The lines are sorted, so they do not tell in which order the metrics grew.
lemma lines_of_perm {m others : Metrics} (h : m.Perm others) : m.lines = others.lines := by
  have hdups : m.eraseDups.Perm others.eraseDups := by
    rw [List.perm_ext_iff_of_nodup (nodup_eraseDups m) (nodup_eraseDups others)]
    intro o
    rw [List.mem_eraseDups, List.mem_eraseDups, h.mem_iff]
  have hvalue (o : Observation) : m.value o = others.value o := h.count_eq o
  have hsorted (l : List String) := List.pairwise_mergeSort isTotalPreorder_le.trans
    isTotalPreorder_le.total l
  simp only [lines, hvalue]
  apply List.Perm.eq_of_pairwise _ (hsorted _) (hsorted _)
  · exact ((List.mergeSort_perm _ _).trans (hdups.map _)).trans (List.mergeSort_perm _ _).symm
  · intro a b _ _ hab hba
    exact String.le_antisymm (of_decide_eq_true hab) (of_decide_eq_true hba)

end Metrics

namespace Tier

variable {t : Tier} {source : Source} {listed : List RecordKind} {kind : RecordKind}
  {q : Pagination} {network : Network} {id query : String} {a : Answer} {v : Visit}

lemma observed_fromRecords (h : fromRecords source listed kind id q = .ok a) :
    a.observed = [] := by
  simp only [fromRecords, bind, Except.bind] at h
  split at h
  · cases h
  · split at h
    · cases h
      rfl
    · split at h
      · cases h
        rfl
      · split at h
        · cases h
        · split at h
          · cases h
            rfl
          · cases h
            rfl

def failure? (t : Tier) (network : Network) (kind : RecordKind) (id query : String) :
    Option Reason :=
  match t.backend, Pagination.ofQuery query with
  | .next urls, .ok q => (Forward.outcome network (attempt urls kind q id)).reason?
  | _, _ => none

lemma failure?_of_next {urls : PerKind Url} (hb : t.backend = .next urls)
    (hq : Pagination.ofQuery query = .ok q) : t.failure? network kind id query =
      (Forward.outcome network (attempt urls kind q id)).reason? := by
  rw [failure?, hb, hq]

lemma failure?_of_rejected {cause : Pagination.Rejection}
    (hq : Pagination.ofQuery query = .error cause) : t.failure? network kind id query = none := by
  rw [failure?, hq]
  cases t.backend with
  | next urls => rfl
  | records source listed => rfl

lemma failure?_of_records (hb : t.backend = .records source listed) :
    t.failure? network kind id query = none := by
  rw [failure?, hb]

lemma observed_validated (hq : Pagination.ofQuery query = .ok q)
    (h : t.validated network kind id q = .ok a) : a.observed =
      (t.failure? network kind id query).toList.map (Observation.failure t.role kind) := by
  rw [validated] at h
  cases hb : t.backend with
  | next urls =>
    rw [hb] at h
    rw [← Except.ok.inj h, failure?_of_next hb hq]
    exact (forwarded_spec t.role network urls kind id q).2.2
  | records source listed =>
    rw [hb] at h
    rw [failure?_of_records hb]
    exact observed_fromRecords h

lemma exists_paged (t : Tier) (network : Network) (kind : RecordKind) (id query : String) :
    ∃ a, t.paged network kind id query = .ok a ∧ a.observed =
      Observation.ofAnswer t.role kind (t.failure? network kind id query) a.response.status := by
  cases hq : Pagination.ofQuery query with
  | error cause =>
    refine ⟨_, paged_of_rejected hq network id, ?_⟩
    rw [failure?_of_rejected hq]
    rfl
  | ok q =>
    obtain ⟨a, ha⟩ := exists_validated t network kind id (Pagination.isValid_of_parse hq)
    refine ⟨_, paged_of_validated hq ha, ?_⟩
    rw [observed_validated hq ha, Observation.ofAnswer]

lemma reading_role (t : Tier) (source : Source) : (t.reading source).role = t.role := by
  rw [reading]
  split
  · rfl
  · rfl

lemma reading_routes (t : Tier) (source : Source) : (t.reading source).routes = t.routes := by
  rw [reading]
  split
  · rfl
  · rfl

lemma reaches_reading (t : Tier) (source : Source) (kind : RecordKind) (r : Request) :
    (t.reading source).Reaches kind r ↔ t.Reaches kind r := by
  rw [Reaches, Reaches, reading_routes]

lemma failure?_reading (t : Tier) (source : Source) :
    (t.reading source).failure? network kind id query = t.failure? network kind id query := by
  rw [reading]
  split
  · rfl
  · next hb =>
    rw [failure?_of_records hb]
    exact failure?_of_records rfl

def failedFor (t : Tier) (kind : RecordKind) (v : Visit) : Option Reason :=
  t.failure? v.network kind (idText v.fresh v.request) v.request.query

lemma exists_visited (t : Tier) (v : Visit) : ∃ a, t.visited v = .ok a ∧
    (∀ kind, t.Reaches kind v.request →
      a.observed = Observation.ofAnswer t.role kind (t.failedFor kind v) a.response.status) ∧
    ((∀ kind, ¬ t.Reaches kind v.request) → a.observed = []) := by
  by_cases h : ∃ kind, t.Reaches kind v.request
  · obtain ⟨kind, hr⟩ := h
    obtain ⟨a, ha, hobserved⟩ := exists_paged (t.reading v.source) v.network kind
      (idText v.fresh v.request) v.request.query
    rw [reading_role, failure?_reading] at hobserved
    refine ⟨completed v.fresh v.request a, ?_, ?_, ?_⟩
    · rw [visited, answer_of_reaches ((reaches_reading t v.source kind v.request).mpr hr), ha]
      rfl
    · intro k hk
      obtain rfl := hr.unique hk
      rw [observed_completed, response_completed, status_finished, failedFor]
      exact hobserved
    · exact fun hnone => absurd hr (hnone kind)
  · rw [not_exists] at h
    obtain ⟨response, hanswer⟩ := exists_answer_of_not_reaches (t := t.reading v.source)
      (fun kind hr => h kind ((reaches_reading t v.source kind v.request).mp hr)) v.fresh
    refine ⟨_, hanswer v.network, ?_, fun _ => rfl⟩
    exact fun kind hr => absurd hr (h kind)

structure Counts (t : Tier) (v : Visit) (a : Answer) : Prop where
  request : ∀ kind status, a.observed.count (.request t.role kind status) =
    if t.Reaches kind v.request ∧ a.response.status = status then 1 else 0
  duration : ∀ kind, a.observed.count (.duration t.role kind) =
    if t.Reaches kind v.request then 1 else 0
  failure : ∀ kind reason, a.observed.count (.failure t.role kind reason) =
    if t.Reaches kind v.request ∧ t.failedFor kind v = some reason then 1 else 0

lemma exists_counts (t : Tier) (v : Visit) : ∃ a, t.visited v = .ok a ∧ t.Counts v a ∧
    ((∀ kind, ¬ t.Reaches kind v.request) → a.observed = []) := by
  obtain ⟨a, ha, hreaches, hnone⟩ := exists_visited t v
  refine ⟨a, ha, ?_, hnone⟩
  by_cases h : ∃ k, t.Reaches k v.request
  · obtain ⟨k, hk⟩ := h
    have hiff (kind : RecordKind) : t.Reaches kind v.request ↔ k = kind :=
      ⟨fun h => h.unique hk, fun h => h ▸ hk⟩
    constructor
    · intro kind status
      simp only [hreaches k hk, Observation.count_request_ofAnswer, hiff]
    · intro kind
      simp only [hreaches k hk, Observation.count_duration_ofAnswer, hiff]
    · intro kind reason
      rw [hreaches k hk, Observation.count_failure_ofAnswer]
      by_cases hkind : k = kind
      · subst hkind
        simp only [hiff]
      · simp only [hiff, hkind, false_and]
  · rw [not_exists] at h
    have hobserved := hnone h
    constructor
    · intro kind status
      simp [hobserved, h]
    · intro kind
      simp [hobserved, h]
    · intro kind reason
      simp [hobserved, h]

lemma run_eq {f : Visit → Answer} (hf : ∀ v, t.visited v = .ok (f v)) (m : Metrics)
    (visits : List Visit) :
    t.run m visits = .ok (visits.map f, m ++ visits.flatMap fun v => (f v).observed) := by
  induction visits generalizing m with
  | nil => rw [run, List.map_nil, List.flatMap_nil, List.append_nil]
  | cons v visits ih =>
    rw [run, hf, List.map_cons, List.flatMap_cons, ← List.append_assoc]
    simp only [bind, Except.bind]
    rw [ih]
    rfl

lemma count_flatMap_observed {f : Visit → Answer} {o : Observation} {p : Visit → Prop}
    [DecidablePred p] (h : ∀ v, (f v).observed.count o = if p v then 1 else 0)
    (visits : List Visit) :
    (visits.flatMap fun v => (f v).observed).count o = visits.countP fun v => p v := by
  induction visits with
  | nil => rfl
  | cons v visits ih =>
    rw [List.flatMap_cons, List.count_append, h, ih, List.countP_cons, Nat.add_comm]
    simp only [decide_eq_true_eq]

lemma finsum_countP {α : Type} (l : List α) (p : α → Prop) [DecidablePred p] (f : α → ℕ) :
    ∑ᶠ c, l.countP (fun a => p a ∧ f a = c) = l.countP fun a => p a := by
  have hcount (c : ℕ) :
      l.countP (fun a => p a ∧ f a = c) = ((l.filter fun a => p a).map f).count c := by
    rw [List.count, List.countP_map, List.countP_filter]
    congr 1
    funext a
    rw [Bool.decide_and, Bool.and_comm]
    rfl
  simp only [hcount]
  rw [finsum_eq_sum_of_support_subset (s := ((l.filter fun a => p a).map f).toFinset),
    List.sum_toFinset_count_eq_length, List.length_map, List.countP_eq_length_filter]
  intro c hc
  exact List.mem_toFinset.mpr (List.count_pos_iff.mp (Nat.pos_of_ne_zero hc))

theorem metrics_account_for_requests (t : Tier) (visits : List Visit) :
    ∃ answers m, t.run [] visits = .ok (answers, m) ∧ answers.length = visits.length ∧
      (∀ kind,
        ∑ᶠ status, m.value (.request t.role kind status) = m.value (.duration t.role kind) ∧
        m.value (.duration t.role kind) = visits.countP (fun v => t.Reaches kind v.request) ∧
        (∀ status, m.value (.request t.role kind status) = (visits.zip answers).countP
          fun p => t.Reaches kind p.1.request ∧ p.2.response.status = status) ∧
        ∀ reason, m.value (.failure t.role kind reason) = visits.countP
          fun v => t.Reaches kind v.request ∧ t.failedFor kind v = some reason) ∧
      (∀ source listed, t.backend = .records source listed →
        ∀ kind reason, m.value (.failure t.role kind reason) = 0) ∧
      (∀ v cause, Pagination.ofQuery v.request.query = .error cause →
        ∃ a last, t.run m [v] = .ok ([a], last) ∧ ∀ kind reason,
          last.value (.failure t.role kind reason) = m.value (.failure t.role kind reason)) ∧
      (∀ v, (∀ kind, ¬ t.Reaches kind v.request) → ∃ a, t.run m [v] = .ok ([a], m)) ∧
      ∀ others, others.Perm visits → ∃ answers' m', t.run [] others = .ok (answers', m') ∧
        (∀ o, m'.value o = m.value o) ∧ m'.lines = m.lines := by
  choose f hf hcounts hnone using exists_counts t
  have hrequest (kind : RecordKind) (status : Nat) :=
    count_flatMap_observed (fun v => (hcounts v).request kind status) visits
  have hduration (kind : RecordKind) :=
    count_flatMap_observed (fun v => (hcounts v).duration kind) visits
  have hfailure (kind : RecordKind) (reason : Reason) :=
    count_flatMap_observed (fun v => (hcounts v).failure kind reason) visits
  refine ⟨visits.map f, visits.flatMap fun v => (f v).observed, run_eq hf [] visits,
    List.length_map _, ?_, ?_, ?_, ?_, ?_⟩
  · intro kind
    refine ⟨?_, hduration kind, ?_, hfailure kind⟩
    · simp only [Metrics.value, hrequest, hduration]
      exact finsum_countP visits (fun v => t.Reaches kind v.request) fun v => (f v).response.status
    · intro status
      rw [Metrics.value, hrequest, ← List.map_prod_left_eq_zip, List.countP_map]
      rfl
  · intro source listed hb kind reason
    rw [Metrics.value, hfailure, List.countP_eq_zero]
    intro v _
    rw [failedFor, failure?_of_records hb]
    simp
  · intro v cause hq
    refine ⟨f v, _, run_eq hf _ [v], ?_⟩
    intro kind reason
    rw [List.flatMap_singleton, Metrics.value, List.count_append, (hcounts v).failure kind reason,
      failedFor, failure?_of_rejected hq, if_neg (by simp), Nat.add_zero, Metrics.value]
  · intro v hv
    refine ⟨f v, ?_⟩
    rw [run_eq hf _ [v], List.flatMap_singleton, hnone v hv, List.append_nil]
    rfl
  · intro others hperm
    have hobserved := hperm.flatMap_right fun v => (f v).observed
    exact ⟨_, _, run_eq hf [] others, fun o => hobserved.count_eq o,
      Metrics.lines_of_perm hobserved⟩

theorem metrics_account_for_requests_of_failure :
    let url : Url := ⟨"http".toList, some { host := .name ['d'] }, .segments [['d']], none, none⟩
    let t : Tier := ⟨.business, [([.literal 'b'], .paged .episodes), ([.literal 'h'], .health)],
      .next ⟨url, url⟩⟩
    let asking (method : String) (path : Char) (query : String) : Visit :=
      ⟨{ method, target := { path := [path], query := some query.toList } }, [],
        Network.unreachable, Source.failing ""⟩
    let lost := asking "GET" 'b' "page=1&startDate=2024-02-29&endDate=2024-03-01"
    let rejected := asking "HEAD" 'b' "page=1"
    let health := asking "GET" 'h' ""
    let data : Tier := { t with role := .data, backend := .records (Source.failing "") [] }
    ∃ answers m, t.run [] [lost, rejected, health] = .ok (answers, m) ∧
      m.value (.duration .business .episodes) = 2 ∧
      m.value (.failure .business .episodes .transport) = 1 ∧
      (∃ a last, t.run m [rejected] = .ok ([a], last) ∧
        last.value (.failure .business .episodes .transport) = 1) ∧
      (∃ a, t.run m [health] = .ok ([a], m)) ∧
      (∃ answers' m', t.run [] [health, rejected, lost] = .ok (answers', m') ∧
        m'.lines = m.lines) ∧
      ∃ failed m', data.run [] [lost] = .ok (failed, m') ∧
        m'.value (.failure .data .episodes .transport) = 0 := by
  intro url t asking lost rejected health data
  obtain ⟨answers, m, hrun, _, hkinds, _, hrejected, hunreached, hreordered⟩ :=
    metrics_account_for_requests t [lost, rejected, health]
  obtain ⟨_, hduration, _, hfailure⟩ := hkinds .episodes
  have hfailed : t.failedFor .episodes lost = some .transport := by
    let q : Pagination := ⟨1, 1000, ⟨⟨2024, 2, 29, by decide⟩, Calendar.Time.midnight⟩,
      ⟨⟨2024, 3, 1, by decide⟩, Calendar.Time.midnight⟩⟩
    have hq : Pagination.ofQuery lost.request.query = .ok q := by cbv
    have htext : Url.parse "http://d/d" = .ok url := by cbv
    have htarget : Target.parse? url.text = some ⟨some "http".toList, ['d'], ['/', 'd'], none⟩ := by
      cbv
    have hlength : url.byteLength + 1201 ≤ Target.lengthLimit := by cbv
    have hcall := Forward.call?_appendPairs (q := q) htext htarget (by cbv)
      (Nat.le_trans (url.byteLength_appendPairs_le q) hlength) (idText lost.fresh lost.request)
    rw [failedFor, failure?_of_next rfl hq, attempt]
    change (Forward.outcome _ (Forward.call? (url.appendPairs q.pairs) _)).reason? = _
    rw [hcall]
    cbv
  have hlost : m.value (.failure .business .episodes .transport) = 1 := by
    have hreaches : t.Reaches .episodes lost.request := by cbv
    refine (hfailure .transport).trans ((List.countP_cons_of_pos ?_).trans ?_)
    · exact decide_eq_true ⟨hreaches, hfailed⟩
    · cbv
  refine ⟨answers, m, hrun, hduration.trans (by cbv), hlost, ?_, ?_, ?_, ?_⟩
  · obtain ⟨a, last, hlast, hsame⟩ := hrejected rejected .dateRange (by cbv)
    exact ⟨a, last, hlast, (hsame .episodes .transport).trans hlost⟩
  · have hroute : t.routes.find? health.request.target.path = some .health := by cbv
    apply hunreached health
    intro kind h
    cases hroute.symm.trans h.2
  · obtain ⟨answers', m', hrun', _, hlines⟩ :=
      hreordered [health, rejected, lost] (List.reverse_perm [lost, rejected, health])
    exact ⟨answers', m', hrun', hlines⟩
  · obtain ⟨failed, m', hrun', _, _, hnone, _⟩ := metrics_account_for_requests data [lost]
    exact ⟨failed, m', hrun', hnone (Source.failing "") [] rfl .episodes .transport⟩

end Tier

end TierRelay
