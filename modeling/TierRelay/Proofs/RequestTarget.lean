import TierRelay.Http.Network
import TierRelay.Proofs.BuiltLength

namespace TierRelay.Http.Target

open TierRelay.Text TierRelay.Url TierRelay.Query

variable {s scheme rest : List Char} {query fragment : Option (List Char)} {t : Target}

def marks (query fragment : Option (List Char)) : List Char :=
  marked '?' query ++ marked '#' fragment

lemma head_marks {c : Char} (h : (marks query fragment).head? = some c) : c = '?' ∨ c = '#' := by
  cases query with
  | some query =>
    left
    exact (Option.some.inj h).symm
  | none =>
    cases fragment with
    | some fragment =>
      right
      exact (Option.some.inj h).symm
    | none => cases h

lemma scheme?_eq_some : scheme? s = some (scheme, rest) ↔
    s = scheme ++ [':', '/', '/'] ++ rest ∧ ∀ c ∈ scheme, isSchemeChar c = true := by
  simp only [scheme?]
  constructor
  · intro h
    split at h
    · next hd =>
      cases h
      have hs := List.takeWhile_append_dropWhile (p := isSchemeChar) (l := s)
      rw [hd] at hs
      refine ⟨?_, List.all_eq_true.mp List.all_takeWhile⟩
      rw [List.append_assoc]
      exact hs.symm
    · cases h
  · rintro ⟨rfl, hall⟩
    have hcolon : isSchemeChar ':' = false := by decide
    rw [List.append_assoc, List.takeWhile_append_of_pos hall, List.dropWhile_append_of_pos hall]
    simp [hcolon]

lemma scheme?_of_append_marks (h : scheme? (s ++ marks query fragment) = some (scheme, rest)) :
    ∃ inner, scheme? s = some (scheme, inner) ∧ rest = inner ++ marks query fragment := by
  obtain ⟨heq, hall⟩ := scheme?_eq_some.mp h
  rcases List.append_eq_append_iff.mp heq with ⟨cut, hcut, hmarks⟩ | ⟨inner, rfl, hrest⟩
  · cases cut with
    | nil =>
      rw [List.append_nil] at hcut
      refine ⟨[], scheme?_eq_some.mpr ⟨?_, hall⟩, ?_⟩
      · rw [List.append_nil, hcut]
      · rw [hmarks]
        rfl
    | cons c cut =>
      have hc : c = '?' ∨ c = '#' := head_marks (by rw [hmarks]; rfl)
      have hmem : c ∈ scheme ++ [':', '/', '/'] := by
        rw [hcut]
        exact List.mem_append_right s List.mem_cons_self
      rcases List.mem_append.mp hmem with hs | hs
      · have := hall c hs
        rcases hc with rfl | rfl
        · exact absurd this (by decide)
        · exact absurd this (by decide)
      · rcases hc with rfl | rfl
        · exact absurd hs (by decide)
        · exact absurd hs (by decide)
  · exact ⟨inner, scheme?_eq_some.mpr ⟨rfl, hall⟩, hrest⟩

lemma scheme?_append (h : scheme? s = some (scheme, rest)) (tail : List Char) :
    scheme? (s ++ tail) = some (scheme, rest ++ tail) := by
  obtain ⟨rfl, hall⟩ := scheme?_eq_some.mp h
  exact scheme?_eq_some.mpr ⟨List.append_assoc _ rest tail, hall⟩

lemma pathAndQuery?_marks (hs : IsInner s) (hq : ∀ text, query = some text → '#' ∉ text) :
    pathAndQuery? (s ++ marks query fragment) =
      if s.all inPath ∧ (query.getD []).all inQuery then some (s, query) else none := by
  rw [pathAndQuery?, marks, ← List.append_assoc, before_append_marked (not_mem_marked hs hq),
    before_append_marked (hs.not_mem (by decide)), after?_append_marked (hs.not_mem (by decide))]

lemma ofAddress?_marks (hs : IsInner s) (hq : ∀ text, query = some text → '#' ∉ text) :
    ofAddress? scheme (s ++ marks query fragment) = some t ↔
      (scheme.length ≤ schemeLimit ∧ s.takeWhile (!endsAuthority ·) ≠ [] ∧
        isAuthority (s.takeWhile (!endsAuthority ·)) = true) ∧
      ((s.dropWhile (!endsAuthority ·)).all inPath = true ∧
        (query.getD []).all inQuery = true) ∧
      t = { scheme := some scheme, authority := s.takeWhile (!endsAuthority ·), query,
            path := if s.dropWhile (!endsAuthority ·) = [] then ['/']
              else s.dropWhile (!endsAuthority ·) } := by
  have hstop : ∀ c, (marks query fragment).head? = some c → (!endsAuthority c) = false := by
    intro c hc
    rcases head_marks hc with rfl | rfl
    · rfl
    · rfl
  have hpath : IsInner (s.dropWhile (!endsAuthority ·)) := hs.sublist (List.dropWhile_sublist _)
  rw [ofAddress?, takeWhile_append_of_head hstop, dropWhile_append_of_head hstop,
    pathAndQuery?_marks hpath hq]
  generalize s.takeWhile (!endsAuthority ·) = authority
  generalize s.dropWhile (!endsAuthority ·) = path
  dsimp only
  by_cases hno : schemeLimit < scheme.length ∨ authority = [] ∨ (!isAuthority authority) = true
  · rw [if_pos hno]
    constructor
    · rintro ⟨⟩
    · rintro ⟨⟨hl, hne, ha⟩, _⟩
      rcases hno with h | h | h
      · exact absurd hl (Nat.not_le.mpr h)
      · exact absurd h hne
      · rw [ha] at h
        cases h
  · have ha : scheme.length ≤ schemeLimit ∧ authority ≠ [] ∧ isAuthority authority = true := by
      simpa [not_or] using hno
    rw [if_neg hno]
    by_cases hp : path.all inPath = true ∧ (query.getD []).all inQuery = true
    · rw [if_pos hp]
      simp [ha, hp, eq_comm]
    · rw [if_neg hp]
      constructor
      · rintro ⟨⟩
      · exact fun h => absurd h.2.1 hp

lemma ofChars?_of_scheme? (h : scheme? s = some (scheme, rest)) :
    ofChars? s = ofAddress? scheme rest := by
  simp only [ofChars?]
  split
  · cases h
  · have hstar : scheme? ['*'] = none := by decide
    rw [hstar] at h
    cases h
  · next tail =>
    have hslash : isSchemeChar '/' = false := by decide
    rw [scheme?, List.dropWhile_cons_of_neg (by rw [hslash]; decide)] at h
    cases h
  · rw [h]

lemma scheme?_of_ofChars? (h : ofChars? s = some t) (hs : t.scheme ≠ none) :
    ∃ scheme rest, scheme? s = some (scheme, rest) ∧ ofAddress? scheme rest = some t := by
  simp only [ofChars?] at h
  split at h
  · cases h
  · cases h
    exact absurd rfl hs
  · obtain ⟨_, _, h⟩ := Option.bind_eq_some_iff.mp h
    cases h
    exact absurd rfl hs
  · split at h
    · next hscheme => exact ⟨_, _, hscheme, h⟩
    · split at h
      · cases h
        exact absurd rfl hs
      · cases h

lemma ofChars?_marks (hs : IsInner s) (hq : ∀ text, query = some text → '#' ∉ text)
    (h : ofChars? (s ++ marks query fragment) = some t) (ht : t.scheme ≠ none) :
    (query.getD []).all inQuery = true ∧ ∀ asked : List Char, '#' ∉ asked → asked.all inQuery = true →
      ofChars? (s ++ marks (some asked) fragment) = some { t with query := some asked } := by
  obtain ⟨scheme, rest, hscheme, haddress⟩ := scheme?_of_ofChars? h ht
  obtain ⟨inner, hinner, rfl⟩ := scheme?_of_append_marks hscheme
  have hi : IsInner inner := by
    obtain ⟨rfl, _⟩ := scheme?_eq_some.mp hinner
    exact (isInner_append.mp hs).2
  obtain ⟨ha, ⟨hpath, hbase⟩, rfl⟩ := (ofAddress?_marks hi hq).mp haddress
  refine ⟨hbase, ?_⟩
  intro asked hmark hall
  have hq' : ∀ text, some asked = some text → '#' ∉ text := by
    rintro _ ⟨⟩
    exact hmark
  rw [ofChars?_of_scheme? (scheme?_append hinner _), ofAddress?_marks hi hq']
  exact ⟨ha, ⟨hpath, hall⟩, rfl⟩

lemma inQuery_of_writes {c : Char} (h : Form.writes c = true) : inQuery c = true := by
  simp only [Form.writes, Form.keeps, Bool.or_eq_true, decide_eq_true_eq] at h
  rcases h with (((((h | rfl) | rfl) | rfl) | rfl) | rfl) | rfl
  · have := toNat_of_isAlphanum h
    simp only [inQuery, Bool.or_eq_true, Bool.and_eq_true, decide_eq_true_eq]
    omega
  all_goals decide

lemma all_inQuery_append {base : List Char} (h : base.all inQuery = true) (added : Form.Pairs) :
    (Form.append base added).all inQuery = true := by
  rw [List.all_eq_true] at h ⊢
  intro c hc
  rcases Form.mem_append hc with hc | hc | rfl | rfl
  · exact h c hc
  · exact inQuery_of_writes hc
  · decide
  · decide

lemma textChars_eq_marks (u : Url) : u.textChars = u.front ++ marks u.query u.fragment := by
  rw [textChars_eq, marks, List.append_assoc]

lemma ofChars?_of_parse? {u : Url} (h : parse? u.text = some t) : ofChars? u.textChars = some t := by
  rw [parse?] at h
  split at h
  · cases h
  · rwa [Url.text, String.toList_ofList] at h

lemma parse?_appendPairs {u : Url} (hu : u.IsMarked) (h : parse? u.text = some t)
    (ht : t.scheme ≠ none) (added : Form.Pairs)
    (hfits : (u.appendPairs added).byteLength ≤ lengthLimit) :
    parse? (u.appendPairs added).text =
      some { t with query := some (Form.append (u.query.getD []) added) } := by
  rw [byteLength] at hfits
  have hchars := ofChars?_of_parse? h
  rw [textChars_eq_marks] at hchars
  obtain ⟨hbase, hasked⟩ := ofChars?_marks hu.front hu.query hchars ht
  rw [parse?, Url.text, String.toList_ofList, if_neg (Nat.not_lt.mpr hfits), textChars_eq_marks]
  apply hasked
  · exact (isMarked_appendPairs hu added).query _ rfl
  · exact all_inQuery_append hbase added

lemma scheme?_textChars {u : Url} (hall : ∀ c ∈ u.scheme, isSchemeChar c = true)
    (hhost : u.hasHost = true) : ∃ rest, scheme? u.textChars = some (u.scheme, rest) := by
  obtain ⟨a, ha⟩ : ∃ a, u.authority = some a := by
    rw [hasHost] at hhost
    split at hhost
    · cases hhost
    · next a ha => exact ⟨a, ha⟩
  refine ⟨a.text ++ u.path.text ++ marked '?' u.query ++ marked '#' u.fragment, ?_⟩
  rw [scheme?_eq_some, textChars, authorityText, ha]
  refine ⟨?_, hall⟩
  simp

lemma scheme_of_ofAddress? (h : ofAddress? scheme s = some t) : t.scheme = some scheme := by
  simp only [ofAddress?] at h
  split at h
  · cases h
  · obtain ⟨_, _, h⟩ := Option.bind_eq_some_iff.mp h
    cases h
    rfl

lemma scheme_ne_none {u : Url} (hall : ∀ c ∈ u.scheme, isSchemeChar c = true)
    (hhost : u.hasHost = true) (ht : parse? u.text = some t) : t.scheme ≠ none := by
  obtain ⟨rest, hrest⟩ := scheme?_textChars hall hhost
  have hchars := ofChars?_of_parse? ht
  rw [ofChars?_of_scheme? hrest] at hchars
  rw [scheme_of_ofAddress? hchars]
  exact Option.some_ne_none _

end TierRelay.Http.Target
