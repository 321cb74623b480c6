import Mathlib.Tactic.Lemma
import TierRelay.Tier.Answer

namespace TierRelay.Tier

open Http

variable {t : Tier} {kind : RecordKind} {r : Request}

def requestId (fresh : Bytes) (r : Request) : Bytes :=
  (r.headers.first? requestIdHeader).getD fresh

def idText (fresh : Bytes) (r : Request) : String :=
  (Header.text? (requestId fresh r)).getD "unknown"

def finished (fresh : Bytes) (r : Request) (response : Response) : Response :=
  (if r.method = "HEAD" then response.withLength.withoutBody else response.withLength).withHeader
    requestIdHeader (requestId fresh r)

lemma status_finished (fresh : Bytes) (r : Request) (response : Response) :
    (finished fresh r response).status = response.status := by
  rw [finished]
  split
  · rfl
  · rfl

def completed (fresh : Bytes) (r : Request) (a : Answer) : Answer :=
  { a with response := finished fresh r a.response }.traced

@[simp] lemma response_completed (fresh : Bytes) (r : Request) (a : Answer) :
    (completed fresh r a).response = finished fresh r a.response := rfl

@[simp] lemma calls_completed (fresh : Bytes) (r : Request) (a : Answer) :
    (completed fresh r a).calls = a.calls := rfl

@[simp] lemma observed_completed (fresh : Bytes) (r : Request) (a : Answer) :
    (completed fresh r a).observed = a.observed := rfl

def Reaches (t : Tier) (kind : RecordKind) (r : Request) : Prop :=
  (r.method = "GET" ∨ r.method = "HEAD") ∧ t.routes.find? r.target.path = some (.paged kind)

instance (t : Tier) (kind : RecordKind) (r : Request) : Decidable (t.Reaches kind r) :=
  inferInstanceAs (Decidable (_ ∧ _))

lemma Reaches.unique {k : RecordKind} (h : t.Reaches kind r) (h' : t.Reaches k r) : k = kind := by
  have := h'.2.symm.trans h.2
  cases this
  rfl

def identified (fresh : Bytes) (r : Request) : Headers :=
  match r.headers.first? requestIdHeader with
  | some _ => r.headers
  | none => r.headers ++ [(requestIdHeader, fresh)]

lemma requestIdText_identified (fresh : Bytes) (r : Request) :
    requestIdText (identified fresh r) = idText fresh r := by
  rw [requestIdText, identified, idText, requestId]
  cases h : r.headers.first? requestIdHeader with
  | some id =>
    dsimp only
    rw [h]
    rfl
  | none =>
    have : Headers.first? requestIdHeader (r.headers ++ [(requestIdHeader, fresh)]) = some fresh := by
      rw [Headers.first?] at h ⊢
      rw [List.lookup_append, h, Option.none_or, List.lookup_cons_self]
    dsimp only
    rw [this]
    rfl

lemma answer_eq (t : Tier) (network : Network) (fresh : Bytes) (r : Request) :
    t.answer network fresh r = (t.routed network (identified fresh r) r).map fun a =>
      { a with response := a.response.withHeader requestIdHeader (requestId fresh r) }.traced := by
  change (t.routed network (identified fresh r) r).bind _ = _
  cases t.routed network (identified fresh r) r with
  | error fault => rfl
  | ok a => rfl

lemma answer_of_reaches (h : t.Reaches kind r) (network : Network) (fresh : Bytes) :
    t.answer network fresh r =
      (t.paged network kind (idText fresh r) r.query).map (completed fresh r) := by
  obtain ⟨hmethod, hroute⟩ := h
  rw [answer_eq, routed, hroute]
  dsimp only
  rw [if_pos hmethod, atEndpoint, requestIdText_identified]
  cases t.paged network kind (idText fresh r) r.query with
  | error fault => rfl
  | ok a => rfl

lemma exists_answer_of_not_reaches (h : ∀ kind, ¬ t.Reaches kind r) (fresh : Bytes) :
    ∃ response, ∀ network, t.answer network fresh r = .ok (Answer.traced { response }) := by
  let sent (response : Response) := response.withHeader requestIdHeader (requestId fresh r)
  cases hroute : t.routes.find? r.target.path with
  | none =>
    refine ⟨sent (notFound r.target.path), fun network => ?_⟩
    rw [answer_eq, routed, hroute]
    rfl
  | some endpoint =>
    by_cases hmethod : r.method = "GET" ∨ r.method = "HEAD"
    · cases endpoint with
      | health =>
        refine ⟨finished fresh r (health t.role), fun network => ?_⟩
        rw [answer_eq, routed, hroute]
        dsimp only
        rw [if_pos hmethod]
        rfl
      | paged kind => exact absurd ⟨hmethod, hroute⟩ (h kind)
    · refine ⟨sent methodNotAllowed.withLength, fun network => ?_⟩
      rw [answer_eq, routed, hroute]
      dsimp only
      rw [if_neg hmethod]
      rfl

end TierRelay.Tier
