import Mathlib
import TierRelay.Settings.Load

namespace TierRelay.Settings

inductive Requirement
  | listener
  | downstream (kind : RecordKind)
  | rooted (kind : RecordKind)
  | apart
  | metrics
  deriving DecidableEq

def Issue.requirement : Issue → Requirement
  | bindAddress _ => .listener
  | downstreamMissing kind _ => .downstream kind
  | downstreamNotHttp kind => .downstream kind
  | downstreamUnreadable kind _ => .downstream kind
  | pathNotRooted kind => .rooted kind
  | pathsEqual => .apart
  | metricsAddress _ => .metrics

def IsAddress (text : String) : Prop :=
  ∃ address, Net.SocketAddress.parse? text = some address

def IsHttpWithHost (text : String) : Prop :=
  ∃ url, Url.parse text = .ok url ∧ url.scheme = "http".toList ∧ url.hasHost = true

namespace Requirement

def all : List Requirement :=
  [listener, downstream .episodes, downstream .profiles, rooted .episodes, rooted .profiles, apart,
    metrics]

lemma mem_all (r : Requirement) : r ∈ all := by
  rcases r with _ | (_ | _) | (_ | _) | _ | _ <;> decide

lemma nodup_all : all.Nodup := by
  decide

def IsMet (s : Settings) : Requirement → Prop
  | listener => IsAddress s.bindAddress
  | downstream kind => s.role ≠ .data →
      s.downstream.get kind ≠ "" ∧ IsHttpWithHost (s.downstream.get kind)
  | rooted kind => ['/'] <+: (s.routes.get kind).toList
  | apart => s.routes.episodes ≠ s.routes.profiles
  | metrics => s.observability.metricsEnabled = true → IsAddress s.observability.metricsAddress

end Requirement

variable {s : Settings} {r : Requirement}

def issuesOf (s : Settings) : Requirement → List Issue
  | .listener => s.listenerIssues
  | .downstream kind => s.downstreamIssues kind
  | .rooted kind => s.pathIssues kind
  | .apart => s.equalPathIssues
  | .metrics => s.metricsIssues

lemma validate_eq_ok_iff : s.validate = .ok s ↔ s.issues = [] := by
  rw [validate]
  cases s.issues <;> simp

lemma validate_of_issues (h : s.issues ≠ []) : s.validate = .error (.invalid s.issues) := by
  rw [validate]
  split
  · next hnil => exact absurd hnil h
  · rfl

lemma issues_eq_flatMap (s : Settings) : s.issues = Requirement.all.flatMap s.issuesOf := by
  simp [issues, Requirement.all, issuesOf]

lemma isSocketAddress_iff {text : String} : isSocketAddress text = true ↔ IsAddress text :=
  Option.isSome_iff_exists

lemma isHttp_iff {url : Url} :
    isHttp url = true ↔ url.scheme = "http".toList ∧ url.hasHost = true := by
  rw [isHttp, Bool.and_eq_true, decide_eq_true_iff]

lemma forwards_iff {role : Role} : role.forwards = true ↔ role ≠ .data := by
  cases role <;> decide

lemma isRooted_iff {path : String} : ['/'] <+: path.toList ↔ path.toList.head? = some '/' := by
  cases path.toList <;> simp [eq_comm]

inductive Checked (s : Settings) (r : Requirement) : List Issue → Prop
  | met : r.IsMet s → Checked s r []
  | violated {i : Issue} : ¬ r.IsMet s → i.requirement = r → Checked s r [i]

lemma checked_downstream (s : Settings) (kind : RecordKind) :
    Checked s (.downstream kind) (s.downstreamIssues kind) := by
  rw [downstreamIssues]
  by_cases hrole : s.role = .data
  · rw [if_pos (by rw [hrole]; rfl)]
    exact .met fun h => absurd hrole h
  rw [if_neg (by simpa using forwards_iff.mpr hrole)]
  by_cases htext : s.downstream.get kind = ""
  · rw [if_pos htext]
    exact .violated (fun h => (h hrole).1 htext) rfl
  rw [if_neg htext]
  cases hurl : Url.parse (s.downstream.get kind) with
  | error cause =>
    refine .violated (fun h => ?_) rfl
    obtain ⟨-, url, hok, -⟩ := h hrole
    rw [hurl] at hok
    cases hok
  | ok url =>
    dsimp only
    by_cases hhttp : isHttp url = true
    · rw [if_pos hhttp]
      exact .met fun _ => ⟨htext, url, hurl, isHttp_iff.mp hhttp⟩
    · rw [if_neg hhttp]
      refine .violated (fun h => hhttp ?_) rfl
      obtain ⟨-, other, hok, hother⟩ := h hrole
      obtain rfl := Except.ok.inj (hurl.symm.trans hok)
      exact isHttp_iff.mpr hother

lemma checked_metrics (s : Settings) : Checked s .metrics s.metricsIssues := by
  rw [metricsIssues]
  by_cases henabled : s.observability.metricsEnabled = true
  · by_cases haddress : isSocketAddress s.observability.metricsAddress = true
    · rw [if_pos (by rw [haddress, Bool.or_true])]
      exact .met fun _ => isSocketAddress_iff.mp haddress
    · rw [if_neg (by simp [henabled, haddress])]
      exact .violated (fun h => haddress (isSocketAddress_iff.mpr (h henabled))) rfl
  · rw [if_pos (by simp [henabled])]
    exact .met fun h => absurd h henabled

lemma checked (s : Settings) (r : Requirement) : Checked s r (s.issuesOf r) := by
  cases r with
  | listener =>
    rw [issuesOf, listenerIssues]
    by_cases h : isSocketAddress s.bindAddress = true
    · rw [if_pos h]
      exact .met (isSocketAddress_iff.mp h)
    · rw [if_neg h]
      exact .violated (mt isSocketAddress_iff.mpr h) rfl
  | downstream kind => exact checked_downstream s kind
  | rooted kind =>
    rw [issuesOf, pathIssues]
    by_cases h : (s.routes.get kind).toList.head? = some '/'
    · rw [if_pos h]
      exact .met (isRooted_iff.mpr h)
    · rw [if_neg h]
      exact .violated (mt isRooted_iff.mp h) rfl
  | apart =>
    rw [issuesOf, equalPathIssues]
    by_cases h : s.routes.episodes = s.routes.profiles
    · rw [if_pos h]
      exact .violated (fun hne => hne h) rfl
    · rw [if_neg h]
      exact .met h
  | metrics => exact checked_metrics s

lemma issuesOf_eq_nil_iff : s.issuesOf r = [] ↔ r.IsMet s := by
  have h := checked s r
  generalize s.issuesOf r = found at h ⊢
  cases h with
  | met h => exact iff_of_true rfl h
  | violated h _ => exact iff_of_false (List.cons_ne_nil _ _) h

instance (s : Settings) (r : Requirement) : Decidable (r.IsMet s) :=
  decidable_of_iff _ issuesOf_eq_nil_iff

lemma map_requirement_issuesOf (s : Settings) (r : Requirement) :
    (s.issuesOf r).map Issue.requirement = if r.IsMet s then [] else [r] := by
  have h := checked s r
  generalize s.issuesOf r = found at h ⊢
  cases h with
  | met h => rw [if_pos h, List.map_nil]
  | violated h hi => rw [if_neg h, List.map_singleton, hi]

lemma requirement_of_mem {i : Issue} (h : i ∈ s.issuesOf r) : i.requirement = r := by
  have hmem := List.mem_map_of_mem (f := Issue.requirement) h
  rw [map_requirement_issuesOf] at hmem
  split at hmem
  · cases hmem
  · exact List.mem_singleton.mp hmem

lemma map_requirement_issues (s : Settings) :
    s.issues.map Issue.requirement = Requirement.all.filter fun r => ¬ r.IsMet s := by
  rw [issues_eq_flatMap, List.map_flatMap]
  induction Requirement.all with
  | nil => rfl
  | cons r rest ih =>
    rw [List.flatMap_cons, ih, map_requirement_issuesOf]
    by_cases h : r.IsMet s
    · rw [if_pos h, List.filter_cons_of_neg (by simpa using h), List.nil_append]
    · rw [if_neg h, List.filter_cons_of_pos (by simpa using h), List.singleton_append]

lemma issues_eq_nil_iff : s.issues = [] ↔ ∀ r : Requirement, r.IsMet s := by
  rw [← List.map_eq_nil_iff, map_requirement_issues, List.filter_eq_nil_iff]
  simp [Requirement.mem_all]

lemma count_requirement_issues (s : Settings) (r : Requirement) :
    (s.issues.map Issue.requirement).count r = if r.IsMet s then 0 else 1 := by
  rw [map_requirement_issues]
  split
  · next h => exact List.count_eq_zero.mpr fun hmem => by simp [h] at hmem
  · next h =>
    have hmem : r ∈ Requirement.all.filter fun r => ¬ r.IsMet s := by
      simpa [Requirement.mem_all] using h
    exact List.count_eq_one_of_mem (Requirement.nodup_all.filter _) hmem

/-! Requirements that do not apply are met. -/

lemma downstreamIssues_of_data (h : s.role = .data) (kind : RecordKind) :
    s.downstreamIssues kind = [] :=
  (issuesOf_eq_nil_iff (r := .downstream kind)).mpr fun hrole => absurd h hrole

lemma metricsIssues_of_disabled (h : s.observability.metricsEnabled = false) :
    s.metricsIssues = [] :=
  (issuesOf_eq_nil_iff (r := .metrics)).mpr fun hon => absurd hon (ne_true_of_eq_false h)

/-- A new value for one setting. The role, and whether metrics are served, are not among them: they
decide which requirements apply. -/
inductive Edit
  | bindAddress (text : String)
  | downstream (kind : RecordKind) (text : String)
  | path (kind : RecordKind) (text : String)
  | seedPath (file : Option String)
  | notFoundOnEmpty (kinds : List RecordKind)
  | logLevel (text : String)
  | metricsAddress (text : String)

namespace Edit

def apply (s : Settings) : Edit → Settings
  | bindAddress text => { s with listener := ⟨text⟩ }
  | downstream kind text => { s with downstream := s.downstream.set kind text }
  | path kind text => { s with routes := s.routes.set kind text }
  | seedPath file => { s with storage := { s.storage with seedPath := file } }
  | notFoundOnEmpty kinds => { s with storage := { s.storage with notFoundOnEmpty := kinds } }
  | logLevel text => { s with observability := { s.observability with logLevel := text } }
  | metricsAddress text =>
    { s with observability := { s.observability with metricsAddress := text } }

def concerns : Edit → Requirement → Bool
  | bindAddress _, .listener => true
  | downstream kind _, .downstream other => other = kind
  | path kind _, .rooted other => other = kind
  | path _ _, .apart => true
  | metricsAddress _, .metrics => true
  | _, _ => false

lemma issuesOf_apply {e : Edit} (h : e.concerns r = false) :
    (e.apply s).issuesOf r = s.issuesOf r := by
  cases e with
  | downstream kind text =>
    cases r with
    | downstream other =>
      have hget := PerKind.get_set_of_ne s.downstream (of_decide_eq_false h) text
      change downstreamIssues _ other = downstreamIssues s other
      rw [downstreamIssues, downstreamIssues, apply, hget]
      rfl
    | _ => rfl
  | path kind text =>
    cases r with
    | rooted other =>
      have hget := PerKind.get_set_of_ne s.routes (of_decide_eq_false h) text
      change pathIssues _ other = pathIssues s other
      rw [pathIssues, pathIssues, apply, hget]
    | apart => cases h
    | _ => rfl
  | bindAddress text =>
    cases r with
    | listener => cases h
    | _ => rfl
  | metricsAddress text =>
    cases r with
    | metrics => cases h
    | _ => rfl
  | _ => cases r <;> rfl

lemma filter_issues_apply (s : Settings) (e : Edit) :
    ((e.apply s).issues.filter fun i => !e.concerns i.requirement) =
      s.issues.filter fun i => !e.concerns i.requirement := by
  rw [issues_eq_flatMap, issues_eq_flatMap, List.filter_flatMap, List.filter_flatMap]
  refine List.flatMap_congr fun r _ => ?_
  cases h : e.concerns r with
  | false => rw [issuesOf_apply h]
  | true =>
    have hnone (s : Settings) :
        ((s.issuesOf r).filter fun i => !e.concerns i.requirement) = [] := by
      refine List.filter_eq_nil_iff.mpr fun i hi => ?_
      rw [requirement_of_mem hi, h]
      decide
    rw [hnone, hnone]

end Edit

theorem issues_are_the_violations (s : Settings) :
    (s.validate = .ok s ↔ ∀ r : Requirement, r.IsMet s) ∧
    ((¬ ∀ r : Requirement, r.IsMet s) → s.validate = .error (.invalid s.issues)) ∧
    s.issues.map Issue.requirement = (Requirement.all.filter fun r => ¬ r.IsMet s) ∧
    (∀ r, (s.issues.map Issue.requirement).count r = if r.IsMet s then 0 else 1) ∧
    (∀ e : Edit, ((e.apply s).issues.filter fun i => !e.concerns i.requirement) =
      s.issues.filter fun i => !e.concerns i.requirement) ∧
    (s.role = .data → ∀ urls, { s with downstream := urls }.issues = s.issues) ∧
    (s.observability.metricsEnabled = false → ∀ text,
      ((Edit.metricsAddress text).apply s).issues = s.issues) := by
  refine ⟨validate_eq_ok_iff.trans issues_eq_nil_iff,
    fun h => validate_of_issues (mt issues_eq_nil_iff.mp h), map_requirement_issues s,
    count_requirement_issues s, Edit.filter_issues_apply s, fun hrole urls => ?_,
    fun hoff text => ?_⟩
  · have hedited : { s with downstream := urls }.role = .data := hrole
    rw [issues, issues, downstreamIssues_of_data hedited, downstreamIssues_of_data hedited,
      downstreamIssues_of_data hrole, downstreamIssues_of_data hrole]
    rfl
  · have hedited : ((Edit.metricsAddress text).apply s).observability.metricsEnabled = false := hoff
    rw [issues, issues, metricsIssues_of_disabled hedited, metricsIssues_of_disabled hoff]
    rfl

theorem issues_are_the_violations_of_all :
    let s : Settings := {
      listener := ⟨"localhost"⟩, downstream := ⟨"", "https://d/p"⟩, routes := ⟨"e", "e"⟩,
      observability := { metricsEnabled := true, metricsAddress := "nowhere" } }
    let data : Settings := { s with position := ⟨.data⟩, observability := {} }
    s.issues.map Issue.requirement = Requirement.all ∧
      s.validate = .error (.invalid s.issues) ∧
      (data.role = .data ∧ { data with downstream := ⟨"?", "http://d/p"⟩ }.issues = data.issues) ∧
      data.observability.metricsEnabled = false ∧
        ((Edit.metricsAddress "anywhere").apply data).issues = data.issues := by
  intro s data
  obtain ⟨-, hrefused, hmap, -⟩ := issues_are_the_violations s
  obtain ⟨-, -, -, -, -, hdata, hoff⟩ := issues_are_the_violations data
  have hall : (Requirement.all.filter fun r => ¬ r.IsMet s) = Requirement.all := by cbv
  have hlistener : ¬ Requirement.listener.IsMet s := by
    have hmem : Requirement.listener ∈ Requirement.all.filter fun r => ¬ r.IsMet s := by
      rw [hall]
      exact Requirement.mem_all _
    simpa using (List.mem_filter.mp hmem).2
  exact ⟨hmap.trans hall, hrefused fun h => hlistener (h _), ⟨rfl, hdata rfl _⟩, rfl, hoff rfl _⟩

end TierRelay.Settings
