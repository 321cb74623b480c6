import TierRelay.Proofs.SettingsIssues
import TierRelay.Tier.Basic

/-!
Settings without issues make a tier unless the router refuses their paths. Of paths without braces
it refuses those with a segment that begins with a mark of other notations, and the path of the
health check; neither is an issue of the settings.
-/

namespace TierRelay

open Text

namespace Route

variable {s t : List Char} {p q path : String} {a : List Piece}

def IsBraceFree (path : String) : Prop :=
  ∀ c ∈ path.toList, c ≠ '\x7b' ∧ c ≠ '\x7d'

/-- No segment begins with a mark that other notations give to parameters. -/
def IsRoutable (path : String) : Prop :=
  ∀ segment ∈ parts '/' path.toList, segment.head? ≠ some ':' ∧ segment.head? ≠ some '*'

def literal (path : String) : List Piece :=
  path.toList.map .literal

lemma pieces?_of_braceFree (h : ∀ c ∈ s, c ≠ '\x7b' ∧ c ≠ '\x7d') :
    pieces? s = some (s.map .literal) := by
  induction s with
  | nil => rw [pieces?]; rfl
  | cons c s ih =>
    obtain ⟨⟨hopen, hclose⟩, hs⟩ := List.forall_mem_cons.mp h
    rw [pieces?]
    · rw [ih hs]
      rfl
    all_goals simp_all

lemma clashes_map_literal : clashes (s.map .literal) (t.map .literal) = true ↔ s = t := by
  induction s generalizing t with
  | nil => cases t <;> simp [clashes]
  | cons c s ih =>
    cases t with
    | nil => simp [clashes]
    | cons d t => simp [clashes, ih]

lemma clashes_literal : clashes (literal p) (literal q) = false ↔ p ≠ q := by
  rw [← Bool.not_eq_true, literal, literal, clashes_map_literal, String.toList_inj]

lemma isMatch_literal : isMatch (literal p) t = true ↔ p.toList = t := by
  rw [literal]
  induction p.toList generalizing t with
  | nil => simp [isMatch, eq_comm]
  | cons c s ih =>
    cases t with
    | nil => simp [isMatch]
    | cons d t => simp [isMatch, ih]

lemma isPlain_iff : isPlain path.toList = true ↔ IsRoutable path := by
  simp only [isPlain, List.all_eq_true, Bool.and_eq_true, decide_eq_true_eq]
  rfl

lemma count_parameter_literal (s : List Char) : (s.map Piece.literal).count .parameter = 0 := by
  refine List.count_eq_zero.mpr fun h => ?_
  obtain ⟨_, -, h⟩ := List.mem_map.mp h
  cases h

lemma ofPath?_eq_some_iff (h : IsBraceFree path) : ofPath? path = some a ↔
    (path.toList.head? = some '/' ∧ IsRoutable path) ∧ literal path = a := by
  have hcount : decide ((literal path).count .parameter ≤ parameterLimit) = true := by
    rw [literal, count_parameter_literal]
    rfl
  rw [ofPath?, Option.ite_none_right_eq_some, isPlain_iff, pieces?_of_braceFree h, ← literal,
    Option.filter_some, if_pos hcount, Option.some.injEq]

end Route

namespace Routes

open Route

variable {routes : Routes} {paths : PerKind String} {kinds : PerKind (List Piece)}
  {check : List Piece}

def healthPath : String := "/health"

structure Fits (paths : PerKind String) (kinds : PerKind (List Piece)) (check : List Piece) :
    Prop where
  isRoute : ∀ kind, ofPath? (paths.get kind) = some (kinds.get kind)
  isRouteCheck : ofPath? healthPath = some check
  apart : clashes kinds.episodes kinds.profiles = false
  apartCheck : ∀ kind, clashes (kinds.get kind) check = false

def table (kinds : PerKind (List Piece)) (check : List Piece) : Routes :=
  [(kinds.episodes, .paged .episodes), (kinds.profiles, .paged .profiles), (check, .health)]

lemma add?_eq_some_iff {result : Routes} {path : String} {endpoint : Endpoint} :
    routes.add? path endpoint = some result ↔ ∃ route, ofPath? path = some route ∧
      (∀ other ∈ routes, clashes other.1 route = false) ∧
      routes ++ [(route, endpoint)] = result := by
  rw [add?]
  simp [Option.bind_eq_some_iff]

lemma ofPaths?_eq_some_iff : ofPaths? paths = some routes ↔
    ∃ kinds check, Fits paths kinds check ∧ table kinds check = routes := by
  simp only [ofPaths?, Option.bind_eq_bind, Option.bind_eq_some_iff, add?_eq_some_iff]
  constructor
  · rintro ⟨_, ⟨episodes, he, -, rfl⟩, _, ⟨profiles, hp, hep, rfl⟩, check, hc, hboth, rfl⟩
    simp only [List.nil_append, List.cons_append, List.forall_mem_cons] at hep hboth
    refine ⟨⟨episodes, profiles⟩, check, ⟨?_, hc, hep.1, ?_⟩, rfl⟩
    · rintro (_ | _)
      exacts [he, hp]
    · rintro (_ | _)
      exacts [hboth.1, hboth.2.1]
  · rintro ⟨⟨episodes, profiles⟩, check, h, rfl⟩
    refine ⟨_, ⟨episodes, h.isRoute .episodes, List.forall_mem_nil _, rfl⟩, _,
      ⟨profiles, h.isRoute .profiles, ?_, rfl⟩, check, h.isRouteCheck, ?_, rfl⟩
    · simpa using h.apart
    · simpa using ⟨h.apartCheck .episodes, h.apartCheck .profiles⟩

lemma ofPath?_healthPath : ofPath? healthPath = some (literal healthPath) :=
  (ofPath?_eq_some_iff (List.forall_iff_forall_mem.mp (by decide))).mpr
    ⟨⟨rfl, List.forall_iff_forall_mem.mp (by decide)⟩, rfl⟩

def literals (paths : PerKind String) : PerKind (List Piece) :=
  ⟨literal paths.episodes, literal paths.profiles⟩

@[simp] lemma get_literals {kind : RecordKind} :
    (literals paths).get kind = literal (paths.get kind) := by
  cases kind <;> rfl

def direct (paths : PerKind String) (path : List Char) : Option Endpoint :=
  if paths.episodes.toList = path then some (.paged .episodes)
  else if paths.profiles.toList = path then some (.paged .profiles)
  else if healthPath.toList = path then some .health
  else none

lemma fits_iff_of_braceFree (hfree : ∀ kind, IsBraceFree (paths.get kind)) :
    Fits paths kinds check ↔
      (∀ kind, ((paths.get kind).toList.head? = some '/' ∧ IsRoutable (paths.get kind)) ∧
        paths.get kind ≠ healthPath) ∧
      paths.episodes ≠ paths.profiles ∧ literals paths = kinds ∧ literal healthPath = check := by
  constructor
  · intro h
    have hroute kind := (ofPath?_eq_some_iff (hfree kind)).mp (h.isRoute kind)
    obtain rfl : literals paths = kinds := by
      obtain ⟨episodes, profiles⟩ := kinds
      exact congrArg₂ PerKind.mk (hroute .episodes).2 (hroute .profiles).2
    obtain rfl : literal healthPath = check :=
      Option.some_inj.mp (ofPath?_healthPath.symm.trans h.isRouteCheck)
    refine ⟨fun kind => ⟨(hroute kind).1, ?_⟩, clashes_literal.mp h.apart, rfl, rfl⟩
    exact clashes_literal.mp (get_literals ▸ h.apartCheck kind)
  · rintro ⟨h, hne, rfl, rfl⟩
    refine ⟨fun kind => ?_, ofPath?_healthPath, clashes_literal.mpr hne, fun kind => ?_⟩
    · exact (ofPath?_eq_some_iff (hfree kind)).mpr ⟨(h kind).1, get_literals.symm⟩
    · exact get_literals ▸ clashes_literal.mpr (h kind).2

lemma find?_literals {path : List Char} (hne : paths.episodes ≠ paths.profiles)
    (hcheck : ∀ kind, paths.get kind ≠ healthPath) :
    (table (literals paths) (literal healthPath)).find? path = direct paths path := by
  have hepisodes : healthPath.toList ≠ paths.episodes.toList :=
    mt String.toList_inj.mp (hcheck .episodes).symm
  have hprofiles : healthPath.toList ≠ paths.profiles.toList :=
    mt String.toList_inj.mp (hcheck .profiles).symm
  have hapart : paths.profiles.toList ≠ paths.episodes.toList :=
    mt String.toList_inj.mp hne.symm
  simp only [find?, table, literals, direct, List.filter_cons, List.filter_nil, isMatch_literal]
  by_cases he : paths.episodes.toList = path
  · subst he
    simp only [if_pos, if_neg hapart, if_neg hepisodes, List.foldl_nil]
  by_cases hp : paths.profiles.toList = path
  · subst hp
    simp only [if_pos, if_neg hapart.symm, if_neg hprofiles, List.foldl_nil]
  · by_cases hc : healthPath.toList = path <;> simp [he, hp, hc]

end Routes

namespace Settings

variable {s : Settings}

structure IsSound (s : Settings) : Prop where
  downstream : ∀ kind, s.downstreamIssues kind = []
  rooted : ∀ kind, (s.routes.get kind).toList.head? = some '/'
  apart : s.routes.episodes ≠ s.routes.profiles

lemma isSound_of_issues (h : s.issues = []) : s.IsSound := by
  have hmet := issues_eq_nil_iff.mp h
  refine ⟨fun kind => ?_, fun kind => isRooted_iff.mp (hmet (.rooted kind)), hmet .apart⟩
  exact issuesOf_eq_nil_iff.mpr (hmet (.downstream kind))

lemma exists_parse_of_downstreamIssues {kind : RecordKind} (hf : s.role.forwards = true)
    (h : s.downstreamIssues kind = []) : ∃ url, Url.parse (s.downstream.get kind) = .ok url := by
  obtain ⟨-, url, hurl, -⟩ :=
    (issuesOf_eq_nil_iff (r := .downstream kind)).mp h (forwards_iff.mp hf)
  exact ⟨url, hurl⟩

end Settings

namespace Tier

open Route Routes

variable {s : Settings}

lemma withBackend_eq_ok_iff {backend : Backend} {t : Tier} : withBackend s backend = .ok t ↔
    ∃ routes, ofPaths? s.routes = some routes ∧ ⟨s.role, routes, backend⟩ = t := by
  rw [withBackend]
  cases ofPaths? s.routes <;> simp

lemma exists_backend_of_isSound (h : s.IsSound) (hseed : s.storage.seedPath = none)
    (files : String → File) :
    ∃ backend, (setup s files).2 = withBackend s backend := by
  rw [setup]
  by_cases hf : s.role.forwards = true
  · obtain ⟨episodes, he⟩ := Settings.exists_parse_of_downstreamIssues hf (h.downstream .episodes)
    obtain ⟨profiles, hp⟩ := Settings.exists_parse_of_downstreamIssues hf (h.downstream .profiles)
    refine ⟨.next ⟨episodes, profiles⟩, ?_⟩
    rw [if_pos hf, nextBackend]
    simp only [PerKind.get] at he hp
    rw [he, hp]
    rfl
  · refine ⟨.records Store.empty.source s.storage.notFoundOnEmpty, ?_⟩
    rw [if_neg hf, initialStore, hseed]
    rfl

lemma exists_ok_iff_of_isSound (h : s.IsSound) (hseed : s.storage.seedPath = none)
    (files : String → File) :
    (∃ t, (setup s files).2 = .ok t) ↔ ∃ kinds check, Fits s.routes kinds check := by
  obtain ⟨backend, hb⟩ := exists_backend_of_isSound h hseed files
  simp only [hb, withBackend_eq_ok_iff, ofPaths?_eq_some_iff]
  constructor
  · rintro ⟨_, _, ⟨kinds, check, hfits, -⟩, -⟩
    exact ⟨kinds, check, hfits⟩
  · rintro ⟨kinds, check, hfits⟩
    exact ⟨_, _, ⟨kinds, check, hfits, rfl⟩, rfl⟩

theorem setup_of_accepted (hs : s.validate = .ok s) (hseed : s.storage.seedPath = none)
    (files : String → File) :
    ((setup s files).2 = .error .routes ∨ ∃ t, (setup s files).2 = .ok t) ∧
    ((∃ t, (setup s files).2 = .ok t) ↔ ∃ kinds check, Fits s.routes kinds check) ∧
    ((∀ kind, IsBraceFree (s.routes.get kind)) →
      ((∃ t, (setup s files).2 = .ok t) ↔
        ∀ kind, IsRoutable (s.routes.get kind) ∧ s.routes.get kind ≠ healthPath) ∧
      ∀ t, (setup s files).2 = .ok t → ∀ path, t.routes.find? path = direct s.routes path) := by
  have h := Settings.isSound_of_issues (Settings.validate_eq_ok_iff.mp hs)
  obtain ⟨backend, hb⟩ := exists_backend_of_isSound h hseed files
  refine ⟨?_, exists_ok_iff_of_isSound h hseed files, fun hfree => ⟨?_, fun t ht path => ?_⟩⟩
  · rw [hb, withBackend]
    cases ofPaths? s.routes with
    | none => exact .inl rfl
    | some routes => exact .inr ⟨_, rfl⟩
  · rw [exists_ok_iff_of_isSound h hseed files]
    simp only [fits_iff_of_braceFree hfree]
    constructor
    · rintro ⟨_, _, hpaths, -⟩ kind
      exact ⟨(hpaths kind).1.2, (hpaths kind).2⟩
    · intro hpaths
      refine ⟨_, _, fun kind => ?_, h.apart, rfl, rfl⟩
      exact ⟨⟨h.rooted kind, (hpaths kind).1⟩, (hpaths kind).2⟩
  · rw [hb, withBackend_eq_ok_iff] at ht
    obtain ⟨_, hroutes, rfl⟩ := ht
    obtain ⟨_, _, hfits, rfl⟩ := ofPaths?_eq_some_iff.mp hroutes
    obtain ⟨hpaths, hne, rfl, rfl⟩ := (fits_iff_of_braceFree hfree).mp hfits
    exact find?_literals hne fun kind => (hpaths kind).2

theorem setup_of_accepted_default_paths :
    let s : Settings := { downstream := ⟨"http://data:8080/e", "http://data:8080/p"⟩ }
    (s.validate = .ok s ∧ s.storage.seedPath = none) ∧ (∀ kind, IsBraceFree (s.routes.get kind)) ∧
      ∃ t, (setup s fun _ => .missing).2 = .ok t ∧
        t.routes.find? "/api/profiles".toList = some (.paged .profiles) := by
  intro s
  have hs : s.validate = .ok s := by cbv
  have hfree : ∀ kind, IsBraceFree (s.routes.get kind) := by
    rintro (_ | _) <;> exact List.forall_iff_forall_mem.mp (by decide)
  obtain ⟨-, -, hsetup⟩ := setup_of_accepted hs rfl fun _ => .missing
  obtain ⟨t, ht⟩ := (hsetup hfree).1.mpr <| by
    rintro (_ | _) <;> exact ⟨List.forall_iff_forall_mem.mp (by decide), by decide⟩
  exact ⟨⟨hs, rfl⟩, hfree, t, ht, ((hsetup hfree).2 t ht _).trans (by decide)⟩

theorem health_path_is_refused :
    let s : Settings := { position := ⟨.data⟩, routes := ⟨"/health", "/p"⟩ }
    s.validate = .ok s ∧ s.storage.seedPath = none ∧
      ∀ files, (setup s files).2 = .error .routes := by
  refine ⟨rfl, rfl, fun files => ?_⟩
  have h : ofPaths? ⟨"/health", "/p"⟩ = none := by
    refine Option.eq_none_iff_forall_ne_some.mpr fun routes h => ?_
    obtain ⟨_, _, hfits, -⟩ := ofPaths?_eq_some_iff.mp h
    have hfree : ∀ kind, IsBraceFree (PerKind.get ⟨"/health", "/p"⟩ kind) := by
      rintro (_ | _) <;> exact List.forall_iff_forall_mem.mp (by decide)
    exact ((fits_iff_of_braceFree hfree).mp hfits).1 .episodes |>.2 rfl
  rw [setup, if_neg (by decide), initialStore]
  simp only [withSource, withBackend, h]

end Tier

end TierRelay
