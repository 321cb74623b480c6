import TierRelay.Proofs.SettingsIssues
import TierRelay.Startup

/-!
The settings that the arguments leave must be without issues. Those of a file are checked before
that as well, so that a file is refused also for issues that the arguments would have mended.
-/

namespace TierRelay

namespace Settings

variable {s : Settings} {r : Requirement}

lemma validate_eq_error_iff {issues : List Issue} :
    s.validate = .error (.invalid issues) ↔ issues = s.issues ∧ ∃ r : Requirement, ¬ r.IsMet s := by
  rw [← not_forall, ← issues_eq_nil_iff]
  by_cases h : s.issues = []
  · rw [validate_eq_ok_iff.mpr h]
    exact iff_of_false nofun fun hissues => hissues.2 h
  · rw [validate_of_issues h, Except.error.injEq, LoadError.invalid.injEq, eq_comm]
    exact (and_iff_left h).symm

lemma isMet_withBindAddress (h : r ≠ .listener) (address : String) :
    r.IsMet (s.withBindAddress address) ↔ r.IsMet s := by
  cases r with
  | listener => exact absurd rfl h
  | _ => exact Iff.rfl

lemma isMet_withRole (h : ∀ kind, r ≠ .downstream kind) (role : Role) :
    r.IsMet (s.withRole role) ↔ r.IsMet s := by
  cases r with
  | downstream kind => exact absurd rfl (h kind)
  | _ => exact Iff.rfl

end Settings

namespace Startup

open Command Settings

variable {arguments : List String} {around : Surroundings} {files : String → File}
  {a : RelayArguments} {s : Settings} {r : Requirement}

inductive Given (files : String → File) : Option String → Settings → Prop
  | defaults : Given files none {}
  | file {path text : String} {s : Settings} : (files path).text = .ok text →
      ofText? text = some s → Given files (some path) s

def IsRefused (o : Outcome) (issues : List Issue) : Prop :=
  o.result = .error (.settings (.invalid issues))

def Replaces (a : RelayArguments) : Requirement → Prop
  | .listener => a.bind.isSome
  | .downstream _ => a.role.isSome
  | _ => False

lemma isMet_overridden (h : ¬ Replaces a r) : r.IsMet (overridden a s) ↔ r.IsMet s := by
  obtain ⟨_, role, address⟩ := a
  have hlistener : address.isSome → r ≠ .listener := by
    rintro haddress rfl
    exact h haddress
  have hdownstream : role.isSome → ∀ kind, r ≠ .downstream kind := by
    rintro hrole kind rfl
    exact h hrole
  cases role with
  | none =>
    cases address with
    | none => exact Iff.rfl
    | some address => exact isMet_withBindAddress (hlistener rfl) address
  | some role =>
    have hrole := isMet_withRole (s := s) (hdownstream rfl) role
    cases address with
    | none => exact hrole
    | some address => exact (isMet_withBindAddress (hlistener rfl) address).trans hrole

lemma isRefused_start_iff (ha : RelayArguments.parse arguments = .ok a) {issues : List Issue} :
    IsRefused (start arguments around) issues ↔
      effective a around.files = .error (.invalid issues) := by
  rw [IsRefused, start, ha]
  dsimp only
  cases effective a around.files with
  | error cause => simp
  | ok s =>
    refine iff_of_false ?_ nofun
    dsimp only [begun]
    split
    · nofun
    · split <;> nofun

lemma effective_of_defaults (h : a.config = none) :
    effective a files = (overridden a {}).validate := by
  rw [effective, loaded, h]
  rfl

lemma effective_of_file {path text : String} (h : a.config = some path)
    (htext : (files path).text = .ok text) (hs : ofText? text = some s) :
    effective a files = s.validate.bind fun _ => (overridden a s).validate := by
  have hloaded : loaded a files = s.validate := by
    rw [loaded, h]
    dsimp only
    rw [load, htext]
    dsimp only
    rw [Settings.parse, hs]
  rw [effective, hloaded, validate]
  split <;> rfl

/-- The file speaks first, and the settings with the replacements only if it has no issues. -/
lemma isRefused_iff (ha : RelayArguments.parse arguments = .ok a)
    (hs : Given around.files a.config s) {issues : List Issue} :
    IsRefused (start arguments around) issues ↔
      (a.config.isSome ∧ issues = s.issues ∧ ∃ r : Requirement, ¬ r.IsMet s) ∨
      ((a.config.isSome → ∀ r : Requirement, r.IsMet s) ∧ issues = (overridden a s).issues ∧
        ∃ r : Requirement, ¬ r.IsMet (overridden a s)) := by
  rw [isRefused_start_iff ha, ← validate_eq_error_iff, ← validate_eq_error_iff,
    ← issues_eq_nil_iff]
  generalize hconfig : a.config = config at hs
  cases hs with
  | defaults => simp [effective_of_defaults hconfig]
  | file htext hs =>
    rw [effective_of_file hconfig htext hs]
    by_cases hok : s.issues = []
    · rw [validate_eq_ok_iff.mpr hok]
      simp [Except.bind, hok]
    · rw [validate_of_issues hok]
      simp [Except.bind, hok]

lemma exists_not_isMet_overridden (h : ∀ r, Replaces a r → r.IsMet s)
    (hs : ∃ r : Requirement, ¬ r.IsMet s) : ∃ r : Requirement, ¬ r.IsMet (overridden a s) := by
  obtain ⟨r, hr⟩ := hs
  exact ⟨r, mt (isMet_overridden fun hreplaces => hr (h r hreplaces)).mp hr⟩

theorem start_refuses_unmet_settings (ha : RelayArguments.parse arguments = .ok a)
    (hs : Given around.files a.config s) :
    (∀ issues, IsRefused (start arguments around) issues ↔
      (a.config.isSome ∧ issues = s.issues ∧ ∃ r : Requirement, ¬ r.IsMet s) ∨
      ((a.config.isSome → ∀ r : Requirement, r.IsMet s) ∧ issues = (overridden a s).issues ∧
        ∃ r : Requirement, ¬ r.IsMet (overridden a s))) ∧
    ((∃ r : Requirement, ¬ r.IsMet (overridden a s)) →
      ∃ issues, IsRefused (start arguments around) issues) ∧
    ((a.config.isSome → ∀ r, Replaces a r → r.IsMet s) →
      ((∃ issues, IsRefused (start arguments around) issues) ↔
        ∃ r : Requirement, ¬ r.IsMet (overridden a s))) ∧
    ∀ r, ¬ Replaces a r → (r.IsMet (overridden a s) ↔ r.IsMet s) := by
  have hrefused (hunmet : ∃ r : Requirement, ¬ r.IsMet (overridden a s)) :
      ∃ issues, IsRefused (start arguments around) issues := by
    by_cases hfile : a.config.isSome ∧ ∃ r : Requirement, ¬ r.IsMet s
    · exact ⟨_, (isRefused_iff ha hs).mpr (.inl ⟨hfile.1, rfl, hfile.2⟩)⟩
    · rw [not_and, not_exists_not] at hfile
      exact ⟨_, (isRefused_iff ha hs).mpr (.inr ⟨hfile, rfl, hunmet⟩)⟩
  refine ⟨fun issues => isRefused_iff ha hs, hrefused, fun hmet => ⟨?_, hrefused⟩,
    fun r hr => isMet_overridden hr⟩
  rintro ⟨issues, hissues⟩
  rcases (isRefused_iff ha hs).mp hissues with ⟨hconfig, -, hunmet⟩ | ⟨-, -, hunmet⟩
  · exact exists_not_isMet_overridden (hmet hconfig) hunmet
  · exact hunmet

theorem start_refuses_unmet_settings_of_role :
    let text := "[tier]\nrole='data'"
    let around : Surroundings :=
      { files := fun _ => .content (Text.Utf8.encode text.toList), isFree := fun _ => true }
    let s : Settings := { position := ⟨.data⟩ }
    Given around.files (some "t") s ∧
      IsRefused (start ["-c", "t", "--role", "business"] around)
        [.downstreamMissing .episodes .business, .downstreamMissing .profiles .business] ∧
      ∀ issues, ¬ IsRefused (start ["-c", "t", "--role=Data", "-b", "[::1]:80"] around) issues := by
  intro text around s
  let business : RelayArguments := ⟨some "t", some .business, none⟩
  let data : RelayArguments := ⟨some "t", some .data, some "[::1]:80"⟩
  have hbusiness : RelayArguments.parse ["-c", "t", "--role", "business"] = .ok business := by cbv
  have hdata : RelayArguments.parse ["-c", "t", "--role=Data", "-b", "[::1]:80"] = .ok data := by cbv
  have htext : (File.content (Text.Utf8.encode text.toList)).text = .ok text := by cbv
  have hgiven : Given around.files (some "t") s := .file htext (by cbv)
  have hmet : ∀ r : Requirement, r.IsMet s := issues_eq_nil_iff.mp (by cbv)
  refine ⟨hgiven, ?_, ?_⟩
  · refine ((start_refuses_unmet_settings hbusiness hgiven).1 _).mpr (.inr ⟨fun _ => hmet, by cbv, ?_⟩)
    exact ⟨.downstream .episodes, fun hmet => (hmet (by decide)).1 rfl⟩
  · obtain ⟨-, -, hdecided, -⟩ := start_refuses_unmet_settings hdata hgiven
    have heffective : ∀ r : Requirement, r.IsMet (overridden data s) :=
      issues_eq_nil_iff.mp (by cbv)
    intro issues hissues
    obtain ⟨r, hr⟩ := (hdecided fun _ r _ => hmet r).mp ⟨issues, hissues⟩
    exact hr (heffective r)

theorem mended_file_is_refused :
    let text := "[store]\nseed_path='seed.json'"
    let around : Surroundings := {
      files := fun path =>
        if path = "tier.toml" then .content (Text.Utf8.encode text.toList) else .missing
      isFree := fun _ => true }
    let a : RelayArguments := ⟨some "tier.toml", some .data, none⟩
    let s : Settings := { storage := ⟨some "seed.json", []⟩ }
    RelayArguments.parse ["-r", "data", "-c", "tier.toml"] = .ok a ∧
      Given around.files a.config s ∧ (∀ r : Requirement, r.IsMet (overridden a s)) ∧
      IsRefused (start ["-r", "data", "-c", "tier.toml"] around)
        [.downstreamMissing .episodes .business, .downstreamMissing .profiles .business] ∧
      ∀ issues, ¬ IsRefused (start ["-r", "data"] around) issues := by
  intro text around a s
  have ha : RelayArguments.parse ["-r", "data", "-c", "tier.toml"] = .ok a := by cbv
  have htext : (around.files "tier.toml").text = .ok text := by cbv
  have hgiven : Given around.files a.config s := .file htext (by cbv)
  refine ⟨ha, hgiven, issues_eq_nil_iff.mp (by cbv), ?_, fun issues hissues => ?_⟩
  · refine (isRefused_iff ha hgiven).mpr (.inl ⟨rfl, by cbv, .downstream .episodes, fun hmet => ?_⟩)
    exact (hmet (by decide)).1 rfl
  · have halone : RelayArguments.parse ["-r", "data"] = .ok { role := some .data } := by cbv
    rcases (isRefused_iff halone .defaults).mp hissues with ⟨hconfig, -⟩ | ⟨-, -, r, hr⟩
    · cases hconfig
    · have heffective : ∀ r : Requirement, r.IsMet (overridden { role := some .data } {}) :=
        issues_eq_nil_iff.mp (by cbv)
      exact hr (heffective r)

end Startup

end TierRelay
