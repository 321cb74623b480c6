import TierRelay.Proofs.ForwardingContract
import TierRelay.Proofs.NamedValues

namespace TierRelay

open Text Http Query

namespace Query.Form

def values (name : String) (pairs : Pairs) : List String :=
  (pairs.filter fun pair => pair.1 = name).map Prod.snd

lemma last?_eq_getLast? (name : String) (pairs : Pairs) :
    last? name pairs = (values name pairs).getLast? := by
  rw [last?, NamedValues.lookup_eq_head?, values, List.filter_reverse, List.map_reverse,
    List.head?_reverse]

end Query.Form

namespace Pagination

def names : List String :=
  ["page", "pageSize", "startDate", "endDate"]

/-- The last value of each parameter is the same in both query strings, or absent from both. -/
def SameParameters (query other : String) : Prop :=
  ∀ name ∈ names, (Form.values name (Form.pairs other.toList)).getLast? =
    (Form.values name (Form.pairs query.toList)).getLast?

lemma ofQuery_congr {query other : String} (h : SameParameters query other) :
    ofQuery other = ofQuery query := by
  simp only [SameParameters, names, List.forall_mem_cons, ← Form.last?_eq_getLast?] at h
  obtain ⟨hpage, hsize, hstart, hend, -⟩ := h
  rw [ofQuery, ofQuery, Parameters.ofQuery, Parameters.ofQuery, Parameters.ofPairs,
    Parameters.ofPairs, hpage, hsize, hstart, hend]

variable {q q' : Pagination}

lemma append_pairs_inj (hq : q.IsValid) (hq' : q'.IsValid) (base : List Char) :
    Form.append base q'.pairs = Form.append base q.pairs ↔ q' = q := by
  constructor
  · intro h
    have hpairs : Form.pairs base ++ q'.pairs = Form.pairs base ++ q.pairs := by
      rw [← Form.pairs_append, ← Form.pairs_append, h]
    have hparsed := parse_append_pairs hq' (Form.pairs base)
    rw [hpairs, parse_append_pairs hq (Form.pairs base)] at hparsed
    exact (Except.ok.inj hparsed).symm
  · rintro rfl
    rfl

end Pagination

lemma Url.text_appendPairs_inj {u : Url} {q q' : Pagination} (hu : u.IsMarked) (hq : q.IsValid)
    (hq' : q'.IsValid) : (u.appendPairs q'.pairs).text = (u.appendPairs q.pairs).text ↔ q' = q := by
  rw [text, text, String.ofList_inj]
  constructor
  · intro h
    have hcut := congrArg cutQuery h
    rw [cutQuery_textChars (isMarked_appendPairs hu _),
      cutQuery_textChars (isMarked_appendPairs hu _)] at hcut
    exact (Pagination.append_pairs_inj hq hq' _).mp (Option.some.inj hcut)
  · rintro rfl
    rfl

lemma Http.Target.parse?_otherQuery {u u' : Url} {t t' : Target} {asked : List Char}
    (hu : u.IsMarked) (hu' : u'.IsMarked) (hfront : u'.front = u.front)
    (hfragment : u'.fragment = u.fragment) (hasked : u'.query = some asked)
    (h : parse? u.text = some t) (ht : t.scheme ≠ none) (h' : parse? u'.text = some t')
    (ht' : t'.scheme ≠ none) : t' = { t with query := some asked } := by
  have hchars := ofChars?_of_parse? h
  have hchars' := ofChars?_of_parse? h'
  rw [textChars_eq_marks] at hchars hchars'
  obtain ⟨-, hany⟩ := ofChars?_marks hu.front hu.query hchars ht
  obtain ⟨hall, -⟩ := ofChars?_marks hu'.front hu'.query hchars' ht'
  rw [hasked, Option.getD_some] at hall
  rw [hfront, hfragment, hasked, hany asked (hu'.query asked hasked) hall] at hchars'
  exact (Option.some.inj hchars').symm

namespace Tier

variable {t : Tier} {urls : PerKind Url} {kind : RecordKind} {r : Request} {q : Pagination}

def target? (urls : PerKind Url) (kind : RecordKind) (q : Pagination) : Option Target :=
  (Target.parse? ((urls.get kind).appendPairs q.pairs).text).filter Target.isHttp

lemma map_line_attempt (urls : PerKind Url) (kind : RecordKind) (q : Pagination) (id : String) :
    (((attempt urls kind q id).filter Call.isHttp).map fun call =>
      (call.request.method, call.target)) = (target? urls kind q).map fun target => ("GET", target) := by
  rw [attempt, Forward.call?, target?, Option.filter_map, Option.map_map]
  rfl

lemma scheme_of_target? {target : Target} (h : target? urls kind q = some target) :
    Target.parse? ((urls.get kind).appendPairs q.pairs).text = some target ∧
      target.scheme ≠ none := by
  obtain ⟨hparse, hhttp⟩ := Option.filter_eq_some_iff.mp h
  refine ⟨hparse, fun hnone => ?_⟩
  rw [Target.isHttp, hnone] at hhttp
  cases hhttp

lemma target?_eq {q' : Pagination} {target target' : Target} (hurl : (urls.get kind).IsMarked)
    (h : target? urls kind q = some target) (h' : target? urls kind q' = some target') :
    target' = { target with
      query := some (Form.append ((urls.get kind).query.getD []) q'.pairs) } := by
  obtain ⟨hparse, hscheme⟩ := scheme_of_target? h
  obtain ⟨hparse', hscheme'⟩ := scheme_of_target? h'
  exact Target.parse?_otherQuery (Url.isMarked_appendPairs hurl q.pairs)
    (Url.isMarked_appendPairs hurl q'.pairs) rfl rfl rfl hparse hscheme hparse' hscheme'

lemma target?_inj {q' : Pagination} (hurl : (urls.get kind).IsMarked) (hq : q.IsValid)
    (hq' : q'.IsValid) (hcalled : target? urls kind q ≠ none ∨ target? urls kind q' ≠ none) :
    target? urls kind q' = target? urls kind q ↔ q' = q := by
  constructor
  · intro heq
    obtain ⟨target, htarget⟩ : ∃ target, target? urls kind q = some target := by
      rw [heq, or_self] at hcalled
      exact Option.ne_none_iff_exists'.mp hcalled
    have hself := target?_eq hurl htarget htarget
    have hother := target?_eq hurl htarget (heq.trans htarget)
    have hquery := congrArg Target.query (hother.symm.trans hself)
    exact (Pagination.append_pairs_inj hq hq' _).mp (Option.some.inj hquery)
  · rintro rfl
    rfl

def asks? (t : Tier) (kind : RecordKind) (query : String) : Option Target :=
  match t.backend, Pagination.ofQuery query with
  | .next urls, .ok q => target? urls kind q
  | _, _ => none

lemma asks?_of_next (hb : t.backend = .next urls) {query : String}
    (hq : Pagination.ofQuery query = .ok q) : t.asks? kind query = target? urls kind q := by
  rw [asks?, hb, hq]

lemma paged_congr {query other : String} (h : Pagination.ofQuery other = Pagination.ofQuery query)
    (network : Network) (id : String) :
    t.paged network kind id other = t.paged network kind id query := by
  rw [paged, paged, h]

lemma exists_responds (t : Tier) (kind : RecordKind) (query : String) :
    ∃ respond : List Exchange → Response, ∀ network id, ∃ a,
      t.paged network kind id query = .ok a ∧
      (a.calls.map fun call => (call.request.method, call.target)) =
        (t.asks? kind query).toList.map (fun target => ("GET", target)) ∧
      a.response = respond (a.calls.map network) := by
  rw [asks?]
  cases hq : Pagination.ofQuery query with
  | error cause =>
    refine ⟨fun _ => Response.plain 400 cause.message, fun network id => ?_⟩
    refine ⟨_, paged_of_rejected hq network id, ?_, rfl⟩
    cases t.backend with
    | next urls => rfl
    | records source listed => rfl
  | ok q =>
    cases hb : t.backend with
    | next urls =>
      refine ⟨fun exchanges => (exchanges.head?.elim .lost Exchange.outcome).response,
        fun network id => ?_⟩
      obtain ⟨hcalls, hresponse, -⟩ := forwarded_spec t.role network urls kind id q
      have hvalidated : t.validated network kind id q =
          .ok (forwarded t.role network urls kind id q) := by
        rw [validated, hb]
      refine ⟨_, paged_of_validated hq hvalidated, ?_, ?_⟩
      · dsimp only
        rw [hcalls, ← Option.toList_map, map_line_attempt, Option.toList_map]
      · dsimp only
        rw [hresponse, hcalls]
        cases attempt urls kind q id with
        | none => rfl
        | some call =>
          rw [Forward.outcome, Option.filter_some]
          split
          · rfl
          · rfl
    | records source listed =>
      obtain ⟨response, -, hfound⟩ :=
        exists_fromRecords source listed kind (Pagination.isValid_of_parse hq)
      refine ⟨fun _ => response, fun network id => ?_⟩
      obtain ⟨a, ha, hresponse, hcalls⟩ := hfound id
      have hvalidated : t.validated network kind id q = .ok a := by
        rw [validated, hb]
        exact ha
      refine ⟨_, paged_of_validated hq hvalidated, ?_, hresponse⟩
      dsimp only
      rw [hcalls]
      rfl

lemma paged_alike {query other : String} (h : Pagination.ofQuery other = Pagination.ofQuery query)
    {network network' : Network} {id id' : String} {a a' : Answer}
    (ha : t.paged network kind id query = .ok a) (ha' : t.paged network' kind id' other = .ok a') :
    (a'.calls.map fun call => (call.request.method, call.target)) =
        (a.calls.map fun call => (call.request.method, call.target)) ∧
      (a'.calls.map network' = a.calls.map network → a'.response = a.response) := by
  obtain ⟨respond, hrespond⟩ := exists_responds t kind query
  obtain ⟨_, hfound, hline, hresponse⟩ := hrespond network id
  obtain rfl := Except.ok.inj (ha.symm.trans hfound)
  obtain ⟨_, hfound', hline', hresponse'⟩ := hrespond network' id'
  rw [← paged_congr h, ha'] at hfound'
  obtain rfl := Except.ok.inj hfound'
  refine ⟨?_, fun hreply => ?_⟩
  · rw [hline, hline']
  · rw [hresponse', hreply, hresponse]

lemma toList_inj {α : Type} {x y : Option α} : x.toList = y.toList ↔ x = y :=
  (Function.LeftInverse.injective fun _ => Option.head?_toList).eq_iff

lemma map_target_of_line {calls : List Call} {target? : Option Target}
    (h : (calls.map fun call => (call.request.method, call.target)) =
      target?.toList.map fun target => ("GET", target)) :
    calls.map Call.target = target?.toList := by
  have hmap := congrArg (List.map Prod.snd) h
  rw [List.map_map, List.map_map] at hmap
  exact hmap.trans (List.map_id' _)

lemma eq_some_target {calls : List Call} {target? : Option Target}
    (h : calls.map Call.target = target?.toList) {call : Call} (hcall : call ∈ calls) :
    target? = some call.target := by
  rw [← Option.mem_toList, ← h]
  exact List.mem_map_of_mem hcall

theorem query_noninterference {r' : Request} (hr : t.Reaches kind r) (hr' : t.Reaches kind r')
    (hmethod : r'.method = r.method) (network network' : Network) (fresh fresh' : Bytes) :
    ∃ answer answer', t.answer network fresh r = .ok answer ∧
      t.answer network' fresh' r' = .ok answer' ∧
      (Pagination.SameParameters r.query r'.query →
        Pagination.ofQuery r'.query = Pagination.ofQuery r.query ∧
        (answer'.calls.map fun call => (call.request.method, call.target)) =
          (answer.calls.map fun call => (call.request.method, call.target)) ∧
        (answer'.calls.map network' = answer.calls.map network → ∃ response : Response,
          answer.response = response.withHeader requestIdHeader (requestId fresh r) ∧
          answer'.response = response.withHeader requestIdHeader (requestId fresh' r'))) ∧
      ∀ urls text, t.backend = .next urls → Url.parse text = .ok (urls.get kind) →
        ∀ q q', Pagination.ofQuery r.query = .ok q → Pagination.ofQuery r'.query = .ok q' →
          let url := urls.get kind
          ((url.appendPairs q'.pairs).text = (url.appendPairs q.pairs).text ↔ q' = q) ∧
          (answer.calls ≠ [] ∨ answer'.calls ≠ [] →
            (answer'.calls.map Call.target = answer.calls.map Call.target ↔ q' = q)) ∧
          ∀ call ∈ answer.calls, ∀ call' ∈ answer'.calls,
            call'.target = { call.target with query := some (Form.append (url.query.getD [])
              [("page", String.ofList (decimal q'.page.toNat)),
                ("pageSize", String.ofList (decimal q'.pageSize.toNat)),
                ("startDate", q'.startDate.canonical), ("endDate", q'.endDate.canonical)]) } := by
  obtain ⟨respond, hrespond⟩ := exists_responds t kind r.query
  obtain ⟨respond', hrespond'⟩ := exists_responds t kind r'.query
  obtain ⟨a, ha, hline, -⟩ := hrespond network (idText fresh r)
  obtain ⟨a', ha', hline', -⟩ := hrespond' network' (idText fresh' r')
  refine ⟨completed fresh r a, completed fresh' r' a', ?_, ?_, fun hsame => ?_, ?_⟩
  · rw [answer_of_reaches hr, ha]
    rfl
  · rw [answer_of_reaches hr', ha']
    rfl
  · have hq := Pagination.ofQuery_congr hsame
    obtain ⟨hline, hresponse⟩ := paged_alike hq ha ha'
    refine ⟨hq, hline, fun hreply => ?_⟩
    refine ⟨if r.method = "HEAD" then a.response.withLength.withoutBody else a.response.withLength,
      rfl, ?_⟩
    rw [response_completed, finished, hmethod, hresponse hreply]
  · intro urls text hb htext q q' hq hq' url
    have hurl : url.IsMarked := Url.isMarked_of_parse htext
    have hvalid := Pagination.isValid_of_parse hq
    have hvalid' := Pagination.isValid_of_parse hq'
    rw [asks?_of_next hb hq] at hline
    rw [asks?_of_next hb hq'] at hline'
    have htarget := map_target_of_line hline
    have htarget' := map_target_of_line hline'
    rw [calls_completed, calls_completed]
    refine ⟨Url.text_appendPairs_inj hurl hvalid hvalid', fun hcalled => ?_, ?_⟩
    · rw [htarget, htarget', toList_inj]
      refine target?_inj hurl hvalid hvalid' ?_
      rwa [ne_eq, ne_eq, ← List.map_eq_nil_iff (f := Call.target), htarget,
        ← List.map_eq_nil_iff (f := Call.target), htarget', Option.toList_eq_nil_iff,
        Option.toList_eq_nil_iff] at hcalled
    · intro call hcall call' hcall'
      exact target?_eq hurl (eq_some_target htarget hcall) (eq_some_target htarget' hcall')

theorem query_noninterference_respelled :
    let url : Url := ⟨"http".toList, some { host := .name ['d'] }, .segments [['d']], none, none⟩
    let t : Tier :=
      ⟨.business, [([.literal '/', .literal 'b'], .paged .episodes)], .next ⟨url, url⟩⟩
    let asking (query : String) : Request :=
      { target := { path := ['/', 'b'], query := some query.toList } }
    let r := asking "page=2&pageSize=+50&startDate=2024-02-29&endDate=2024-03-01"
    let r' := asking ("endDate=x&&startDate=2024%2D02%2d29&%70age=2&Page=9&extra&" ++
      "pageSize=%205%30&=&endDate=2024-03-01")
    let network : Network := fun _ => .answered ⟨404, [], [0x7B]⟩ true
    t.Reaches .episodes r ∧ t.Reaches .episodes r' ∧ r'.method = r.method ∧
      Pagination.SameParameters r.query r'.query ∧
      ∃ answer answer', t.answer network [1] r = .ok answer ∧ t.answer network [1] r' = .ok answer' ∧
        answer'.response = answer.response := by
  intro url t asking r r' network
  have hr : t.Reaches .episodes r := ⟨.inl rfl, by cbv⟩
  have hr' : t.Reaches .episodes r' := ⟨.inl rfl, by cbv⟩
  have hpairs : Form.pairs r.query.toList = [("page", "2"), ("pageSize", " 50"),
      ("startDate", "2024-02-29"), ("endDate", "2024-03-01")] := by cbv
  have hpairs' : Form.pairs r'.query.toList = [("endDate", "x"), ("startDate", "2024-02-29"),
      ("page", "2"), ("Page", "9"), ("extra", ""), ("pageSize", " 50"), ("", ""),
      ("endDate", "2024-03-01")] := by cbv
  have hsame : Pagination.SameParameters r.query r'.query := by
    rw [Pagination.SameParameters, hpairs, hpairs']
    decide
  obtain ⟨answer, answer', hanswer, hanswer', heffect, -⟩ :=
    query_noninterference hr hr' rfl network network [1] [1]
  obtain ⟨-, hline, hresponse⟩ := heffect hsame
  -- The reply is the same whatever is asked, so that both are answered alike or not at all.
  have hreply : answer'.calls.map network = answer.calls.map network := by
    have hmap := congrArg (List.map fun _ => Exchange.answered ⟨404, [], [0x7B]⟩ true) hline
    rwa [List.map_map, List.map_map] at hmap
  obtain ⟨response, h, h'⟩ := hresponse hreply
  exact ⟨hr, hr', rfl, hsame, answer, answer', hanswer, hanswer', h'.trans h.symm⟩

end Tier

end TierRelay
