import TierRelay.Proofs.ForwardingContract

/-!
A request for a page that fails leaves one warning or error of the tier behind, and one that does
not fail leaves none. The tracing around the routes adds an error of its own to every server error,
which tells of the status alone.
-/

namespace TierRelay

open Http

namespace Entry

def field? (e : Entry) (name : String) : Option String :=
  e.fields.lookup name

end Entry

namespace Answer

def log (a : Answer) : List Entry :=
  a.events.map Event.entry

end Answer

inductive Failure
  | rejected (cause : Pagination.Rejection)
  | forward (url : Url) (cause : ForwardError)
  | fetch (cause : Store.Error)

namespace Failure

def level : Failure → Level
  | rejected _ => .warn
  | forward _ _ => .error
  | fetch _ => .error

def status : Failure → Nat
  | rejected _ => 400
  | forward _ (.refused status) => status
  | forward _ (.transport _) => 500
  | forward _ (.unsendable _) => 500
  | fetch _ => 500

def event (id : String) (role : Role) (kind : RecordKind) : Failure → Event
  | rejected cause => .rejected id role kind cause
  | forward url (.refused status) => .refused id kind url.text status
  | forward url (.transport detail) => .unreachable id kind url.text detail
  | forward url (.unsendable detail) => .unreachable id kind url.text detail
  | fetch cause => .storeFailed id kind cause

lemma part_event (f : Failure) (id : String) (role : Role) (kind : RecordKind) :
    (f.event id role kind).part = Event.handlerPart := by
  rcases f with _ | ⟨_, _ | _ | _⟩ | _ <;> rfl

end Failure

namespace Event

/-- What a handler writes besides the start of a request and alarms. -/
inductive IsQuiet : Event → Prop
  | requesting (id url : String) : IsQuiet (.requesting id url)
  | retrieved (id : String) (kind : RecordKind) (status : Nat) (contentType : Option Bytes)
      (bytes : Nat) : IsQuiet (.retrieved id kind status contentType bytes)
  | nothingFound (id : String) (kind : RecordKind) : IsQuiet (.nothingFound id kind)
  | found (id : String) (kind : RecordKind) (returned total : Nat) :
      IsQuiet (.found id kind returned total)

variable {e : Event}

lemma IsQuiet.level (h : e.IsQuiet) : e.level = .info := by
  cases h <;> rfl

lemma IsQuiet.part (h : e.IsQuiet) : e.part = handlerPart := by
  cases h <;> rfl

lemma isOwn_of_part (h : e.part = handlerPart) : e.isOwn = true := by
  rw [isOwn, h, handlerPart]
  decide

end Event

namespace Answer

end Answer

namespace Tier

variable {t : Tier} {urls : PerKind Url} {source : Source} {listed : List RecordKind}
  {network : Network} {kind : RecordKind} {id query : String} {r : Request} {f : Failure}
  {q : Pagination} {skip : UInt64}

inductive Fails (t : Tier) (network : Network) (kind : RecordKind) (id query : String) :
    Failure → Prop
  | rejected {cause : Pagination.Rejection} : Pagination.ofQuery query = .error cause →
      Fails t network kind id query (.rejected cause)
  | forward {urls : PerKind Url} {q : Pagination} {url : Url} {cause : ForwardError} :
      t.backend = .next urls → Pagination.ofQuery query = .ok q →
      (urls.get kind).appendPairs q.pairs = url → (forward network url id).2 = .error cause →
      Fails t network kind id query (.forward url cause)
  | fetch {source : Source} {listed : List RecordKind} {q : Pagination} {skip : UInt64}
      {cause : Store.Error} : t.backend = .records source listed →
      Pagination.ofQuery query = .ok q → q.rowsToSkip = .ok skip →
      source kind q skip = .error cause → Fails t network kind id query (.fetch cause)

/-- The two ways that a request for a page can go: its last event tells of the one failure, or none
of its events is an alarm. -/
inductive Course (t : Tier) (network : Network) (kind : RecordKind) (id query : String) :
    Nat → List Event → Prop
  | failed (f : Failure) (quiet : List Event) : (∀ f', t.Fails network kind id query f' ↔ f' = f) →
      Status.isSuccess f.status = false → (∀ e ∈ quiet, e.IsQuiet) →
      Course t network kind id query f.status (quiet ++ [f.event id t.role kind])
  | served {status : Nat} {events : List Event} : (∀ f, ¬ t.Fails network kind id query f) →
      (Status.isSuccess status = true ∨ status = 404 ∧
        ∃ source listed, t.backend = .records source listed ∧ kind ∈ listed) →
      (∀ e ∈ events, e.IsQuiet) → Course t network kind id query status events

namespace Course

variable {status : Nat} {events : List Event} {e : Event}

lemma quiet_or_failure (h : t.Course network kind id query status events) (he : e ∈ events) :
    e.IsQuiet ∨ ∃ f : Failure, e = f.event id t.role kind := by
  cases h with
  | failed f quiet _ _ hquiet =>
    rcases List.mem_append.mp he with he | he
    · exact .inl (hquiet e he)
    · exact .inr ⟨f, List.mem_singleton.mp he⟩
  | served _ _ hquiet => exact .inl (hquiet e he)

lemma isOwn (h : t.Course network kind id query status events) (he : e ∈ events) :
    e.isOwn = true := by
  apply Event.isOwn_of_part
  rcases h.quiet_or_failure he with hquiet | ⟨f, rfl⟩
  · exact hquiet.part
  · exact f.part_event id t.role kind

lemma ne_unwritten (h : t.Course network kind id query status events) (he : e ∈ events)
    (cause : Json.WriteError) : e ≠ .unwritten id kind cause := by
  rintro rfl
  rcases h.quiet_or_failure he with hquiet | ⟨f, hf⟩
  · cases hquiet
  · rcases f with _ | ⟨_, _ | _ | _⟩ | _ <;> cases hf

end Course

end Tier

end TierRelay
