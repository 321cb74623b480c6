import TierRelay.Command.Report
import TierRelay.Proofs.OptionWords
import TierRelay.Proofs.QueryIndependence

namespace TierRelay

open Text Http Query

namespace Pagination

lemma ofPairs_append_arguments (before : Form.Pairs) (a : Command.PageArguments) :
    Parameters.ofPairs (before ++ a.pairs) =
      ⟨some (String.ofList (signed a.page)),
        (a.pageSize.map fun n => String.ofList (signed n)).or (Form.last? "pageSize" before),
        some a.start, some a.finish⟩ := by
  obtain ⟨start, finish, page, pageSize, path⟩ := a
  simp only [Parameters.ofPairs, Form.last?_append]
  cases pageSize with
  | none => rfl
  | some n => rfl

lemma last?_of_unnamed {name : String} {pairs : Form.Pairs} (h : ∀ pair ∈ pairs, pair.1 ≠ name) :
    Form.last? name pairs = none := by
  rw [Form.last?, List.lookup_eq_none_iff]
  intro pair hpair
  rw [bne_iff_ne]
  exact (h pair (List.mem_reverse.mp hpair)).symm

lemma ofQuery_append (base : List Char) (added : Form.Pairs) :
    ofQuery (String.ofList (Form.append base added)) =
      parse (.ofPairs (Form.pairs base ++ added)) := by
  rw [ofQuery, Parameters.ofQuery, String.toList_ofList, Form.pairs_append]

end Pagination

namespace Url

variable {u : Url}

lemma addressed_cases (u : Url) : u.addressed.1 = u ∨ u.addressed.1 = u.withoutCredentials := by
  rw [addressed]
  cases u.credentials? with
  | none => exact .inl rfl
  | some credentials => exact .inr rfl

lemma addressed_appendPairs (u : Url) (added : Form.Pairs) :
    (u.appendPairs added).addressed = (u.addressed.1.appendPairs added, u.addressed.2) := by
  have hcredentials : (u.appendPairs added).credentials? = u.credentials? := rfl
  rw [addressed, addressed, hcredentials]
  cases u.credentials? with
  | none => rfl
  | some credentials => rfl

@[simp] lemma scheme_addressed (u : Url) : u.addressed.1.scheme = u.scheme := by
  rcases u.addressed_cases with h | h
  · rw [h]
  · rw [h, withoutCredentials]

@[simp] lemma query_addressed (u : Url) : u.addressed.1.query = u.query := by
  rcases u.addressed_cases with h | h
  · rw [h]
  · rw [h, withoutCredentials]

@[simp] lemma hasHost_withoutCredentials (u : Url) : u.withoutCredentials.hasHost = u.hasHost := by
  rw [hasHost, hasHost, withoutCredentials]
  cases u.authority with
  | none => rfl
  | some a => rfl

@[simp] lemma hasHost_addressed (u : Url) : u.addressed.1.hasHost = u.hasHost := by
  rcases u.addressed_cases with h | h
  · rw [h]
  · rw [h, hasHost_withoutCredentials]

lemma front_withoutCredentials_sublist (u : Url) : u.withoutCredentials.front.Sublist u.front := by
  simp only [front, authorityText, withoutCredentials]
  cases u.authority with
  | none => exact List.Sublist.refl _
  | some a =>
    have htext : ({ a with user := [], password := none } : Authority).text.Sublist a.text := by
      simp only [Authority.text, List.append_assoc]
      exact List.sublist_append_right a.credentials _
    have hinner := ((htext.cons_cons '/').cons_cons '/').cons_cons ':'
    exact (hinner.append_left u.scheme).append_right u.path.text

lemma isMarked_addressed (h : u.IsMarked) : u.addressed.1.IsMarked where
  front := by
    rcases u.addressed_cases with hu | hu
    · rw [hu]
      exact h.front
    · rw [hu]
      exact h.front.sublist u.front_withoutCredentials_sublist
  query := by
    rw [query_addressed]
    exact h.query

lemma isSchemeChar_of_isWeb (h : u.isWeb = true) :
    ∀ c ∈ u.scheme, Target.isSchemeChar c = true := by
  rw [isWeb, Bool.or_eq_true, decide_eq_true_eq, decide_eq_true_eq] at h
  rcases h with h | h
  · rw [h]
    exact List.all_eq_true.mp rfl
  · rw [h]
    exact List.all_eq_true.mp rfl

end Url

namespace Command

variable {base : String} {kind : RecordKind} {a : PageArguments} {url : Url} {accepted call : Call}

lemma url_of_arguments
    (hurl : Url.parse (QueryArguments.withoutSlashes base ++ a.path.getD ("/api/" ++ kind.name)) =
      .ok url) : QueryArguments.url ⟨base, .page kind a⟩ = .ok (url.appendPairs a.pairs) := by
  simp only [QueryArguments.url, hurl]
  rfl

lemma Report.call?_eq_some : Report.call? url = some call ↔
    (url.hasHost = true ∧ url.isWeb = true) ∧ ∃ target,
      Target.parse? url.addressed.1.text = some target ∧
        call = ⟨"GET", target, url.addressed.2 ++ [("accept", Header.ofText "*/*")]⟩ := by
  simp only [Report.call?]
  split
  · next h => simp [h, eq_comm]
  · next h => simp [h]

/-- What is sent instead, when the URL of `accepted` is `url` and has the arguments in its query. -/
def asking (accepted : Call) (url : Url) (a : PageArguments) : Call :=
  { accepted with
    target := { accepted.target with query := some (Form.append (url.query.getD []) a.pairs) } }

lemma call?_appendPairs (hmarked : url.IsMarked) (haccepted : Report.call? url = some accepted)
    (hfits : (url.appendPairs a.pairs).addressed.1.byteLength ≤ Target.lengthLimit) :
    Report.call? (url.appendPairs a.pairs) = some (asking accepted url a) := by
  obtain ⟨⟨hhost, hweb⟩, target, htarget, rfl⟩ := Report.call?_eq_some.mp haccepted
  have hscheme : target.scheme ≠ none := by
    refine Target.scheme_ne_none ?_ (url.hasHost_addressed.trans hhost) htarget
    rw [Url.scheme_addressed]
    exact Url.isSchemeChar_of_isWeb hweb
  rw [Url.addressed_appendPairs] at hfits
  have hasked := Target.parse?_appendPairs (Url.isMarked_addressed hmarked) htarget hscheme a.pairs
    hfits
  rw [Url.query_addressed] at hasked
  refine Report.call?_eq_some.mpr ⟨⟨hhost, hweb⟩,
    { target with query := some (Form.append (url.query.getD []) a.pairs) }, ?_, ?_⟩
  · rw [Url.addressed_appendPairs]
    exact hasked
  · rw [Url.addressed_appendPairs]
    rfl

lemma call?_of_long (hlong : Target.lengthLimit < url.addressed.1.byteLength) :
    Report.call? url = none := by
  rw [Option.eq_none_iff_forall_ne_some]
  intro call hcall
  obtain ⟨-, target, htarget, -⟩ := Report.call?_eq_some.mp hcall
  rw [Target.parse?, Url.text, String.toList_ofList, if_pos (by exact hlong)] at htarget
  cases htarget

lemma ofQuery_asking (hown : ∀ pair ∈ url.pairs, pair.1 ≠ "pageSize") :
    Pagination.ofQuery (asking accepted url a).request.query =
      Pagination.parse ⟨some (String.ofList (signed a.page)),
        a.pageSize.map fun n => String.ofList (signed n), some a.start, some a.finish⟩ := by
  have hnone : Form.last? "pageSize" (Form.pairs (url.query.getD [])) = none :=
    Pagination.last?_of_unnamed hown
  change Pagination.ofQuery (String.ofList (Form.append (url.query.getD []) a.pairs)) = _
  rw [Pagination.ofQuery_append, Pagination.ofPairs_append_arguments, hnone, Option.or_none]

/-- An address that is too long with its query is not asked for; no other argument is refused. -/
theorem asked_query_validates_as_given (kind : RecordKind) (start finish : String) (page : Int64)
    (pageSize : Option Int64) (path : Option String)
    (hurl : Url.parse (QueryArguments.withoutSlashes base ++ path.getD ("/api/" ++ kind.name)) =
      .ok url)
    (haccepted : Report.call? url = some accepted)
    (hown : ∀ pair ∈ url.pairs, pair.1 ∉ Pagination.names) :
    let a : PageArguments := ⟨start, finish, page.toInt, pageSize.map Int64.toInt, path⟩
    QueryArguments.parse (a.words base kind) = .ok ⟨base, .page kind a⟩ ∧
      ∀ arguments, QueryArguments.parse arguments = .ok ⟨base, .page kind a⟩ →
        ((url.appendPairs a.pairs).addressed.1.byteLength ≤ Target.lengthLimit → ∃ call : Call,
          (∀ network, Report.ofArguments network arguments = .ofExchange (network call)) ∧
          Pagination.ofQuery call.request.query = Pagination.parse
            ⟨some (String.ofList (signed page.toInt)),
              pageSize.map fun size => String.ofList (signed size.toInt), some start, some finish⟩) ∧
        (Target.lengthLimit < (url.appendPairs a.pairs).addressed.1.byteLength →
          ∀ network, Report.ofArguments network arguments = .failure "builder error") := by
  intro a
  have ha : a.Fits := by
    refine ⟨⟨page, rfl⟩, fun size hsize => ?_⟩
    obtain ⟨n, -, hn⟩ := Option.map_eq_some_iff.mp hsize
    exact ⟨n, hn⟩
  refine ⟨QueryArguments.parse_words ha base kind, fun arguments hparsed => ?_⟩
  have hreport (network : Network) : Report.ofArguments network arguments =
      Report.ofUrl network (url.appendPairs a.pairs) := by
    rw [Report.ofArguments, hparsed]
    simp only [url_of_arguments (a := a) hurl]
  have hsize : ∀ pair ∈ url.pairs, pair.1 ≠ "pageSize" := by
    intro pair hpair hname
    exact hown pair hpair (by rw [hname]; decide)
  refine ⟨fun hfits => ⟨asking accepted url a, fun network => ?_, ?_⟩, fun hlong network => ?_⟩
  · rw [hreport, Report.ofUrl, call?_appendPairs (Url.isMarked_of_parse hurl) haccepted hfits]
  · rw [ofQuery_asking hsize, Option.map_map]
    rfl
  · rw [hreport, Report.ofUrl, call?_of_long hlong]

theorem asked_query_validates_as_given_with_marks :
    let url : Url := ⟨"http".toList, some { user := ['u'], host := .name ['d'], port := some 81 },
      .segments [['p']], some "x=1&&y".toList, some ['f']⟩
    let accepted : Call :=
      ⟨"GET", ⟨some "http".toList, "d:81".toList, ['/', 'p'], some "x=1&&y".toList⟩,
        [("authorization", Header.ofText "Basic dTo="), ("accept", Header.ofText "*/*")]⟩
    let a : PageArguments :=
      ⟨"2024-02-29", "1&page=2 +#%é", (7 : Int64).toInt,
        some (-9223372036854775808 : Int64).toInt, some "/p?x=1&&y#f"⟩
    Url.parse (QueryArguments.withoutSlashes "http://u@d:81//" ++ "/p?x=1&&y#f") = .ok url ∧
      Report.call? url = some accepted ∧
      (∀ pair ∈ url.pairs, pair.1 ∉ Pagination.names) ∧
      QueryArguments.parse (a.words "http://u@d:81//" .profiles) =
        .ok ⟨"http://u@d:81//", .page .profiles a⟩ ∧
      ∃ call : Call, (∀ network, Report.ofArguments network (a.words "http://u@d:81//" .profiles) =
        .ofExchange (network call)) ∧
        Pagination.ofQuery call.request.query = .error .dateRange := by
  intro url accepted a
  have hurl : Url.parse (QueryArguments.withoutSlashes "http://u@d:81//" ++ "/p?x=1&&y#f") =
      .ok url := by cbv
  have haddressed : url.addressed =
      (url.withoutCredentials, [("authorization", Header.ofText "Basic dTo=")]) := by cbv
  have htarget : Target.parse? url.addressed.1.text = some accepted.target := by
    rw [haddressed]
    cbv
  have haccepted : Report.call? url = some accepted := by
    refine Report.call?_eq_some.mpr ⟨⟨rfl, rfl⟩, accepted.target, htarget, ?_⟩
    rw [haddressed]
    rfl
  have hpairs : url.pairs = [("x", "1"), ("y", "")] := by cbv
  have hown : ∀ pair ∈ url.pairs, pair.1 ∉ Pagination.names := by
    rw [hpairs]
    decide
  have hfits : (url.appendPairs a.pairs).addressed.1.byteLength ≤ Target.lengthLimit := by
    have hlength : (url.addressed.1.appendPairs a.pairs).byteLength = 117 := by
      rw [haddressed]
      cbv
    rw [Url.addressed_appendPairs, hlength, Target.lengthLimit]
    omega
  have hgiven : Pagination.parse ⟨some "7", some "-9223372036854775808",
      some "2024-02-29", some "1&page=2 +#%é"⟩ = .error .dateRange := by cbv
  obtain ⟨hwords, hasked⟩ := asked_query_validates_as_given .profiles "2024-02-29" "1&page=2 +#%é" 7
    (some (-9223372036854775808)) (some "/p?x=1&&y#f") hurl haccepted hown
  obtain ⟨call, hcall, hvalidated⟩ := (hasked _ hwords).1 hfits
  exact ⟨hurl, haccepted, hown, hwords, call, hcall, hvalidated.trans hgiven⟩

end Command

end TierRelay
