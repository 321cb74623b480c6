import Mathlib
import TierRelay.Chain
import TierRelay.Http.RequestId
import TierRelay.Proofs.ForwardingContract
import TierRelay.Proofs.NamedValues
import TierRelay.Proofs.Utf8

/-!
Every response has the id that came first with the request, or the fresh one. The calls have it too
where it is text; any other id ends at the first tier, and the tiers behind it see a word in its
place.
-/

namespace TierRelay

open Text

namespace Http

namespace Headers

def values (name : String) (h : Headers) : List Bytes :=
  (h.filter fun header => header.1 = name).map Prod.snd

lemma values_append (name : String) (h added : Headers) :
    values name (h ++ added) = values name h ++ values name added := by
  simp [values]

lemma first?_eq_head? (name : String) (h : Headers) : h.first? name = (values name h).head? :=
  NamedValues.lookup_eq_head? name h

end Headers

namespace Header

def isText (value : Bytes) : Bool :=
  (text? value).isSome

lemma ofText_of_text? {value : Bytes} {s : String} (h : text? value = some s) :
    ofText s = value := by
  rw [text?, Option.ite_none_right_eq_some, List.all_eq_true] at h
  obtain ⟨hall, hs⟩ := h
  have hascii (b : UInt8) (hb : b ∈ value) : b.toNat < 0x80 := by
    have hvisible := hall b hb
    simp only [Bool.or_eq_true, Bool.and_eq_true, decide_eq_true_eq] at hvisible
    rcases hvisible with rfl | hvisible
    · decide
    · omega
  have hchar (b : UInt8) (hb : b ∈ value) : (Char.ofNat b.toNat).toNat = b.toNat := by
    have := hascii b hb
    rw [Char.toNat_ofNat, if_pos (by unfold Nat.isValidChar; omega)]
  rw [← Option.some.inj hs, ofText, String.toList_ofList, Utf8.encode_ascii, List.map_map]
  · conv_rhs => rw [← List.map_id value]
    apply List.map_congr_left
    intro b hb
    rw [Function.comp, hchar b hb, UInt8.ofNat_toNat, id_eq]
  · intro c hc
    obtain ⟨b, hb, rfl⟩ := List.mem_map.mp hc
    rw [hchar b hb]
    exact hascii b hb

lemma isValue_of_isText {value : Bytes} (h : isText value = true) : isValue value = true := by
  obtain ⟨s, hs⟩ := Option.isSome_iff_exists.mp h
  rw [text?, Option.ite_none_right_eq_some, List.all_eq_true] at hs
  refine List.all_eq_true.mpr fun b hb => ?_
  have hvisible := hs.1 b hb
  simp only [Bool.or_eq_true, Bool.and_eq_true, decide_eq_true_eq] at hvisible ⊢
  refine hvisible.imp_right fun hrange => ⟨hrange.1, ?_⟩
  rintro rfl
  exact absurd hrange.2 (by decide)

lemma isText_encode {s : List Char} (h : ∀ c ∈ s, 32 ≤ c.toNat ∧ c.toNat < 127) :
    isText (Utf8.encode s) = true := by
  have hascii : ∀ c ∈ s, c.toNat < 0x80 := fun c hc => Nat.lt_succ_of_lt (h c hc).2
  rw [isText, text?, Utf8.encode_ascii hascii, if_pos]
  · rfl
  · rw [List.all_eq_true]
    intro b hb
    obtain ⟨c, hc, rfl⟩ := List.mem_map.mp hb
    have := h c hc
    have hb := toNat_ofNat_of_ascii (hascii c hc)
    simp only [Bool.or_eq_true, Bool.and_eq_true, decide_eq_true_eq]
    omega

end Header

namespace RequestId

def hexDigits : List Char := "0123456789abcdef".toList

def IsVersion4 (s : List Char) : Prop :=
  ∃ a b c v d e, s = a ++ '-' :: b ++ '-' :: '4' :: c ++ '-' :: v :: d ++ '-' :: e ∧
    a.length = 8 ∧ b.length = 4 ∧ c.length = 3 ∧ d.length = 3 ∧ e.length = 12 ∧
    (∀ x ∈ a ++ b ++ c ++ d ++ e, x ∈ hexDigits) ∧ v ∈ ['8', '9', 'a', 'b']

lemma length_digits (count n : Nat) : (digits count n).length = count := by
  rw [digits, List.length_map, List.length_reverse, List.length_range]

lemma mem_hexDigits {count n : Nat} {c : Char} (h : c ∈ digits count n) : c ∈ hexDigits := by
  obtain ⟨i, _, rfl⟩ := List.mem_map.mp h
  have hall : ∀ m : Fin 16, lowerHexDigit m ∈ hexDigits := by decide
  exact hall ⟨_, Nat.mod_lt _ (by decide)⟩

lemma isVersion4_text (random : Nat) : IsVersion4 (text random) := by
  have hvariant : ∀ m : Fin 4, lowerHexDigit (8 + m) ∈ ['8', '9', 'a', 'b'] := by decide
  refine ⟨digits 8 (random >>> 90), digits 4 (random >>> 74), digits 3 (random >>> 62),
    lowerHexDigit (8 + random >>> 60 % 4), digits 3 (random >>> 48), digits 12 random, rfl,
    length_digits _ _, length_digits _ _, length_digits _ _, length_digits _ _, length_digits _ _,
    ?_, hvariant ⟨_, Nat.mod_lt _ (by decide)⟩⟩
  simp only [List.mem_append]
  rintro x ((((h | h) | h) | h) | h) <;> exact mem_hexDigits h

lemma IsVersion4.isText_encode {s : List Char} (h : IsVersion4 s) :
    Header.isText (Utf8.encode s) = true := by
  have hvisible : ∀ x ∈ '-' :: hexDigits, 32 ≤ x.toNat ∧ x.toNat < 127 :=
    List.forall_iff_forall_mem.mp (by decide)
  have hvariant : ∀ x ∈ ['8', '9', 'a', 'b'], x ∈ hexDigits :=
    List.forall_iff_forall_mem.mp (by decide)
  obtain ⟨a, b, c, v, d, e, rfl, _, _, _, _, _, hdigits, hv⟩ := h
  apply Header.isText_encode
  intro x hx
  apply hvisible
  have hversion : '4' ∈ hexDigits := by decide
  have hv := hvariant v hv
  simp only [List.mem_append, List.mem_cons] at hx hdigits ⊢
  rcases hx with (((hx | rfl | hx) | rfl | rfl | hx) | rfl | rfl | hx) | rfl | hx <;> simp [*]

end RequestId

end Http

open Http

def Http.Response.IsUnmarked (response : Response) : Prop :=
  Headers.values Tier.requestIdHeader response.headers = []

lemma isUnmarked_withHeader {response : Response} (h : response.IsUnmarked) {name : String}
    (hname : name ≠ Tier.requestIdHeader) (value : Bytes) :
    (response.withHeader name value).IsUnmarked := by
  rw [Response.IsUnmarked, Response.withHeader, Headers.values_append, h]
  simp [Headers.values, hname]

lemma isUnmarked_withLength {response : Response} (h : response.IsUnmarked) :
    response.withLength.IsUnmarked :=
  isUnmarked_withHeader h (by decide) _

lemma isUnmarked_ofStatus (status : Nat) : (Response.ofStatus status).IsUnmarked := rfl

lemma isUnmarked_json (status : Nat) (body : Bytes) : (Response.json status body).IsUnmarked := by
  simp [Response.IsUnmarked, Headers.values, Response.json, Tier.requestIdHeader]

lemma isUnmarked_plain (status : Nat) (text : String) :
    (Response.plain status text).IsUnmarked := by
  simp [Response.IsUnmarked, Headers.values, Response.plain, Tier.requestIdHeader]

lemma Outcome.isUnmarked_response (o : Outcome) : o.response.IsUnmarked := by
  cases o with
  | page status body => exact isUnmarked_json status body
  | refused status => exact isUnmarked_ofStatus status
  | lost | unsent => exact isUnmarked_ofStatus 500

lemma values_withRequestId {response : Response} (h : response.IsUnmarked) (id : Bytes) :
    Headers.values Tier.requestIdHeader
      (response.withHeader Tier.requestIdHeader id).headers = [id] := by
  rw [Response.withHeader, Headers.values_append, h]
  simp [Headers.values]

namespace Tier

def sentId (id : Bytes) : Bytes :=
  if Header.isText id then id else Header.ofText "unknown"

lemma ofText_idText (fresh : Bytes) (r : Request) :
    Header.ofText (idText fresh r) = sentId (requestId fresh r) := by
  rw [idText, sentId, Header.isText]
  cases h : Header.text? (requestId fresh r) with
  | none => rfl
  | some s => exact Header.ofText_of_text? h

lemma isText_sentId (id : Bytes) : Header.isText (sentId id) = true := by
  rw [sentId]
  split
  · next h => exact h
  · decide

lemma headers_idText (fresh : Bytes) (r : Request) : Forward.headers (idText fresh r) =
    [("accept", Header.ofText "application/json"),
      ("x-request-id", sentId (requestId fresh r))] := by
  have hvalue := Header.isValue_of_isText (isText_sentId (requestId fresh r))
  rw [Forward.headers, ofText_idText, if_pos hvalue]

lemma values_headers (fresh : Bytes) (r : Request) :
    Headers.values requestIdHeader (Forward.headers (idText fresh r)) =
      [sentId (requestId fresh r)] := by
  rw [headers_idText]
  rfl

lemma sentId_of_isText {id : Bytes} (h : Header.isText id = true) : sentId id = id := if_pos h

lemma sentId_eq_iff {id : Bytes} : sentId id = id ↔ Header.isText id = true := by
  refine ⟨?_, sentId_of_isText⟩
  intro h
  rw [← h]
  exact isText_sentId id

lemma headers_of_mem_forwarded {role : Role} {network : Network} {urls : PerKind Url}
    {kind : RecordKind} {id : String} {q : Pagination} {call : Call}
    (h : call ∈ (forwarded role network urls kind id q).calls) :
    call.headers = Forward.headers id := by
  obtain ⟨hcalls, _, _⟩ := forwarded_spec role network urls kind id q
  rw [hcalls, Option.mem_toList, attempt, Forward.call?, Option.filter_eq_some_iff,
    Option.map_eq_some_iff] at h
  obtain ⟨⟨target, _, rfl⟩, _⟩ := h
  rfl

/-- An answer before the request id is put on it, with the text that the call has for an id. -/
structure Sends (id : String) (a : Answer) : Prop where
  unmarked : a.response.IsUnmarked
  headers : ∀ call ∈ a.calls, call.headers = Forward.headers id

lemma sends_of_uncalled {id : String} {a : Answer} (h : a.response.IsUnmarked)
    (hcalls : a.calls = []) : Sends id a :=
  ⟨h, by simp [hcalls]⟩

lemma exists_validated_sends (t : Tier) (network : Network) (kind : RecordKind) (id : String)
    {q : Pagination} (hq : q.IsValid) :
    ∃ a, t.validated network kind id q = .ok a ∧ Sends id a := by
  rw [validated]
  cases t.backend with
  | next urls =>
    obtain ⟨_, hresponse, _⟩ := forwarded_spec t.role network urls kind id q
    refine ⟨_, rfl, ?_, fun call => headers_of_mem_forwarded⟩
    rw [hresponse]
    exact Outcome.isUnmarked_response _
  | records source listed =>
    obtain ⟨skip, hskip, hnat⟩ := Pagination.rowsToSkip_eq hq.page_pos
    cases hs : source kind q skip with
    | error cause =>
      exact ⟨_, fromRecords_of_error hskip hs id, sends_of_uncalled (isUnmarked_ofStatus 500) rfl⟩
    | ok slice =>
      obtain ⟨a, ha, hcalls, hresponse⟩ := exists_fromRecords_of_slice listed hq hskip hnat hs id
      refine ⟨a, ha, sends_of_uncalled ?_ hcalls⟩
      rw [hresponse]
      split
      · exact isUnmarked_ofStatus 404
      · exact isUnmarked_json 200 _

lemma exists_paged_sends (t : Tier) (network : Network) (kind : RecordKind) (id query : String) :
    ∃ a, t.paged network kind id query = .ok a ∧ Sends id a := by
  cases hq : Pagination.ofQuery query with
  | error cause =>
    exact ⟨_, paged_of_rejected hq network id, sends_of_uncalled (isUnmarked_plain 400 _) rfl⟩
  | ok q =>
    obtain ⟨a, ha, hsends⟩ :=
      exists_validated_sends t network kind id (Pagination.isValid_of_parse hq)
    exact ⟨_, paged_of_validated hq ha, hsends.unmarked, hsends.headers⟩

lemma exists_atEndpoint_sends (t : Tier) (network : Network) (fresh : Bytes) (r : Request)
    (endpoint : Endpoint) : ∃ a, t.atEndpoint network (identified fresh r) r endpoint = .ok a ∧
      Sends (idText fresh r) a := by
  cases endpoint with
  | health => exact ⟨_, rfl, sends_of_uncalled rfl rfl⟩
  | paged kind =>
    rw [atEndpoint, requestIdText_identified]
    exact exists_paged_sends t network kind (idText fresh r) r.query

lemma isUnmarked_notFound (path : List Char) : (notFound path).IsUnmarked := by
  rw [notFound]
  split <;> rfl

lemma exists_routed_sends (t : Tier) (network : Network) (fresh : Bytes) (r : Request) :
    ∃ a, t.routed network (identified fresh r) r = .ok a ∧ Sends (idText fresh r) a := by
  rw [routed]
  cases t.routes.find? r.target.path with
  | none => exact ⟨_, rfl, sends_of_uncalled (isUnmarked_notFound _) rfl⟩
  | some endpoint =>
    dsimp only
    by_cases hmethod : r.method = "GET" ∨ r.method = "HEAD"
    · obtain ⟨a, ha, hsends⟩ := exists_atEndpoint_sends t network fresh r endpoint
      rw [if_pos hmethod, ha]
      refine ⟨_, rfl, ?_, hsends.headers⟩
      dsimp only
      split <;> exact isUnmarked_withLength hsends.unmarked
    · rw [if_neg hmethod]
      exact ⟨_, rfl, sends_of_uncalled rfl rfl⟩

structure Carries (id sent : Bytes) (a : Answer) : Prop where
  response : Headers.values requestIdHeader a.response.headers = [id]
  calls : ∀ call ∈ a.calls, Headers.values requestIdHeader call.headers = [sent]

lemma exists_carries (t : Tier) (network : Network) (fresh : Bytes) (r : Request) :
    ∃ a, t.answer network fresh r = .ok a ∧
      Carries (requestId fresh r) (sentId (requestId fresh r)) a := by
  obtain ⟨a, ha, hsends⟩ := exists_routed_sends t network fresh r
  rw [answer_eq, ha]
  refine ⟨_, rfl, values_withRequestId hsends.unmarked _, ?_⟩
  intro call hcall
  rw [hsends.headers call hcall, values_headers]

end Tier

structure Station where
  tier : Tier
  random : Nat

def Station.fresh (s : Station) : Bytes :=
  RequestId.ofRandom s.random

namespace Chain

open Tier

def line (behind : Network) (stations : List Station) : Network :=
  stations.foldr (fun station behind => station.tier.network behind station.fresh) behind

def answers (behind : Network) : List Station → Request → List Answer
  | [], _ => []
  | station :: below, r =>
    match station.tier.answer (line behind below) station.fresh r with
    | .error _ => []
    | .ok a => a :: a.calls.flatMap fun call => answers behind below call.request

variable {id : Bytes} {r : Request}

lemma requestId_of_first? (h : r.headers.first? requestIdHeader = some id) (fresh : Bytes) :
    requestId fresh r = id := by
  rw [requestId, h, Option.getD_some]

lemma first?_of_values {h : Headers} (hvalues : Headers.values requestIdHeader h = [id]) :
    h.first? requestIdHeader = some id := by
  rw [Headers.first?_eq_head?, hvalues]
  rfl

lemma carries_of_mem_answers (hid : Header.isText id = true) (behind : Network)
    (stations : List Station) (h : r.headers.first? requestIdHeader = some id) :
    ∀ a ∈ answers behind stations r, Carries id id a := by
  -- Along the tiers: the call that carries the id is the request of the next one.
  induction stations generalizing r with
  | nil => exact fun _ ha => absurd ha List.not_mem_nil
  | cons station below ih =>
    obtain ⟨first, hfirst, hcarries⟩ :=
      exists_carries station.tier (line behind below) station.fresh r
    rw [requestId_of_first? h, sentId_of_isText hid] at hcarries
    intro a ha
    rw [answers, hfirst, List.mem_cons] at ha
    rcases ha with rfl | ha
    · exact hcarries
    · obtain ⟨call, hcall, ha⟩ := List.mem_flatMap.mp ha
      exact ih (first?_of_values (hcarries.calls call hcall)) a ha

theorem one_id_where_text (outer : Station) (below : List Station) (behind : Network)
    (r : Request) :
    let id := requestId outer.fresh r
    (∀ supplied, r.headers.first? requestIdHeader = some supplied → id = supplied) ∧
    (r.headers.first? requestIdHeader = none → Header.isText id = true ∧
      ∃ text, RequestId.IsVersion4 text ∧ id = Utf8.encode text) ∧
    ∃ a, outer.tier.answer (line behind below) outer.fresh r = .ok a ∧
      Headers.values requestIdHeader a.response.headers = [id] ∧
      ∀ call ∈ a.calls,
        (Headers.values requestIdHeader call.headers =
          [if Header.isText id then id else Header.ofText "unknown"]) ∧
        ((Headers.values requestIdHeader call.headers = [id] ∧
          ∀ b ∈ answers behind below call.request, Carries id id b) ↔ Header.isText id = true) := by
  intro id
  obtain ⟨a, ha, hcarries⟩ := exists_carries outer.tier (line behind below) outer.fresh r
  refine ⟨fun supplied h => requestId_of_first? h outer.fresh, ?_, a, ha, hcarries.response, ?_⟩
  · intro h
    have hid : id = Utf8.encode (RequestId.text outer.random) := by
      change (r.headers.first? requestIdHeader).getD outer.fresh = _
      rw [h]
      rfl
    rw [hid]
    have hversion := RequestId.isVersion4_text outer.random
    exact ⟨hversion.isText_encode, _, hversion, rfl⟩
  · intro call hcall
    have hsent := hcarries.calls call hcall
    refine ⟨hsent, ?_, ?_⟩
    · rintro ⟨hsame, _⟩
      rw [← sentId_eq_iff]
      exact (List.cons.inj (hsent.symm.trans hsame)).1
    · intro htext
      rw [sentId_of_isText htext] at hsent
      exact ⟨hsent, carries_of_mem_answers htext behind below (first?_of_values hsent)⟩

theorem accented_id_is_lost :
    let url : Url := ⟨"http".toList, some { host := .name ['d'] }, .segments [['d']], none, none⟩
    let t : Tier :=
      ⟨.business, [([.literal '/', .literal 'b'], .paged .episodes)], .next ⟨url, url⟩⟩
    let query := some "page=1&startDate=2024-02-29&endDate=2024-03-01".toList
    let r : Request :=
      { target := { path := ['/', 'b'], query }, headers := [("x-request-id", [0xC3, 0xA9])] }
    ∃ a call, t.answer Network.unreachable (RequestId.ofRandom 0) r = .ok a ∧
      a.calls = [call] ∧
      Headers.values requestIdHeader a.response.headers = [[0xC3, 0xA9]] ∧
      Headers.values requestIdHeader call.headers = [Header.ofText "unknown"] ∧
      Header.ofText "unknown" ≠ [0xC3, 0xA9] := by
  intro url t query r
  let q : Pagination := ⟨1, 1000, ⟨⟨2024, 2, 29, by decide⟩, Calendar.Time.midnight⟩,
    ⟨⟨2024, 3, 1, by decide⟩, Calendar.Time.midnight⟩⟩
  let fresh := RequestId.ofRandom 0
  have hr : t.Serves .episodes r := ⟨rfl, by cbv⟩
  have hq : Pagination.ofQuery r.query = .ok q := by cbv
  have htext : Url.parse "http://d/d" = .ok url := by cbv
  have htarget : Target.parse? url.text = some ⟨some "http".toList, ['d'], ['/', 'd'], none⟩ := by
    cbv
  have hlength : url.byteLength + 1201 ≤ Target.lengthLimit := by cbv
  have hattempt := Forward.call?_appendPairs (q := q) htext htarget (by cbv)
    (Nat.le_trans (url.byteLength_appendPairs_le q) hlength) (idText fresh r)
  have hb : t.backend = .next ⟨url, url⟩ := rfl
  obtain ⟨a, ha, hcalls, _⟩ := answer_of_forwarded hb hr hq Network.unreachable fresh
  obtain ⟨_, ha', hcarries⟩ := exists_carries t Network.unreachable fresh r
  obtain rfl := Except.ok.inj (ha.symm.trans ha')
  have hsome : ∃ call, a.calls = [call] := by
    rw [hcalls]
    change ∃ call, ((Forward.call? (url.appendPairs q.pairs) _).filter _).toList = [call]
    rw [hattempt, Option.filter_some, if_pos (by cbv)]
    exact ⟨_, rfl⟩
  obtain ⟨call, hsome⟩ := hsome
  have hcall : call ∈ a.calls := hsome ▸ List.mem_singleton_self call
  exact ⟨a, call, ha, hsome, hcarries.response, hcarries.calls call hcall, by decide⟩

end Chain

end TierRelay
