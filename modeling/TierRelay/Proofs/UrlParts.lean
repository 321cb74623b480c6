import TierRelay.Proofs.Utf8
import TierRelay.Url.Parse

/-!
Neither a question mark nor a number sign stands in what comes before the query of a URL that has
been read, and no number sign in the query, so the two marks cut the text back into its parts.
-/

namespace TierRelay.Text

lemma before_append_marked {mark : Char} {s : List Char} (h : mark ∉ s) (text : Option (List Char)) :
    before mark (s ++ Url.marked mark text) = s := by
  cases text with
  | none => rw [Url.marked, List.append_nil, before_of_not_mem h]
  | some text => exact before_append h text

lemma after?_append_marked {mark : Char} {s : List Char} (h : mark ∉ s) (text : Option (List Char)) :
    after? mark (s ++ Url.marked mark text) = text := by
  cases text with
  | none => rw [Url.marked, List.append_nil, after?_of_not_mem h]
  | some text => exact after?_append h text

lemma not_mem_before {α : Type} [DecidableEq α] (separator : α) (s : List α) :
    separator ∉ before separator s := by
  intro h
  have hall := List.all_eq_true.mp (List.all_takeWhile (p := (· ≠ separator)) (l := s)) _ h
  simp at hall

end TierRelay.Text

namespace TierRelay.Url

open TierRelay.Text

lemma beginsPath_iff {c : Char} : beginsPath c = true ↔ c ≠ '?' ∧ c ≠ '#' := by
  simp [beginsPath]

def IsInner (s : List Char) : Prop :=
  ∀ c ∈ s, beginsPath c = true

@[simp] lemma isInner_nil : IsInner [] := by simp [IsInner]

@[simp] lemma isInner_cons {c : Char} {s : List Char} :
    IsInner (c :: s) ↔ beginsPath c = true ∧ IsInner s := by simp [IsInner]

@[simp] lemma isInner_append {s t : List Char} : IsInner (s ++ t) ↔ IsInner s ∧ IsInner t := by
  simp [IsInner, or_imp, forall_and]

lemma isInner_ite {p : Prop} [Decidable p] {s t : List Char} (hs : IsInner s) (ht : IsInner t) :
    IsInner (if p then s else t) := by
  split
  · exact hs
  · exact ht

lemma IsInner.sublist {s t : List Char} (h : IsInner t) (hs : s.Sublist t) : IsInner s :=
  fun c hc => h c (hs.subset hc)

lemma IsInner.not_mem {s : List Char} (h : IsInner s) {c : Char} (hc : beginsPath c = false) :
    c ∉ s := by
  intro hm
  exact absurd (h c hm) (by simp [hc])

lemma beginsPath_digitChar (n : Nat) : beginsPath n.digitChar = true :=
  beginsPath_iff.mpr ⟨Nat.digitChar_ne '?' (by decide), Nat.digitChar_ne '#' (by decide)⟩

lemma isInner_toDigitsCore {base fuel n : Nat} {digits : List Char} (h : IsInner digits) :
    IsInner (Nat.toDigitsCore base fuel n digits) := by
  induction fuel generalizing n digits with
  | zero => exact h
  | succ fuel ih =>
    have hd : IsInner ((n % base).digitChar :: digits) := isInner_cons.mpr ⟨beginsPath_digitChar _, h⟩
    rw [Nat.toDigitsCore]
    split
    · exact hd
    · exact ih hd

lemma isInner_toDigits (base n : Nat) : IsInner (Nat.toDigits base n) :=
  isInner_toDigitsCore isInner_nil

lemma isInner_flatMap {α : Type} {s : List α} {f : α → List Char} (h : ∀ a ∈ s, IsInner (f a)) :
    IsInner (s.flatMap f) := by
  intro c hc
  obtain ⟨a, ha, hm⟩ := List.mem_flatMap.mp hc
  exact h a ha c hm

lemma isInner_encodeByte (b : UInt8) : IsInner (Percent.encodeByte b) := by
  have digit {n : Nat} (hn : n < 16) : beginsPath (upperHexDigit n) = true := by
    have all : ∀ d : Fin 16, beginsPath (upperHexDigit d) = true := by decide
    exact all ⟨n, hn⟩
  have hb := b.toNat_lt
  simp only [Percent.encodeByte, isInner_cons, digit (show b.toNat / 16 < 16 by omega),
    digit (show b.toNat % 16 < 16 by omega), isInner_nil, and_true]
  decide

lemma mem_encode {keep : Char → Bool} {s : List Char} {c : Char} (h : c ∈ Percent.encode keep s) :
    (c ∈ s ∧ keep c = true) ∨ ∃ b, c ∈ Percent.encodeByte b := by
  obtain ⟨d, hd, hc⟩ := List.mem_flatMap.mp h
  by_cases hk : keep d = true
  · rw [if_pos hk, List.mem_singleton] at hc
    exact Or.inl (hc ▸ ⟨hd, hk⟩)
  · rw [if_neg hk] at hc
    obtain ⟨b, _, hb⟩ := List.mem_flatMap.mp hc
    exact Or.inr ⟨b, hb⟩

lemma isInner_encode {keep : Char → Bool} {s : List Char}
    (h : ∀ c ∈ s, keep c = true → beginsPath c = true) : IsInner (Percent.encode keep s) := by
  intro c hc
  rcases mem_encode hc with ⟨hs, hk⟩ | ⟨b, hb⟩
  · exact h c hs hk
  · exact isInner_encodeByte b c hb

lemma beginsPath_of_inPath {c : Char} (h : Written.inPath c = true) : beginsPath c = true := by
  simp only [Written.inPath, Bool.and_eq_true, decide_eq_true_eq, List.mem_cons, not_or] at h
  exact beginsPath_iff.mpr ⟨h.2.2.1, h.2.1⟩

lemma isInner_encode_inPath (s : List Char) : IsInner (Percent.encode Written.inPath s) :=
  isInner_encode fun _ _ => beginsPath_of_inPath

lemma isInner_encode_inCredentials (s : List Char) :
    IsInner (Percent.encode Written.inCredentials s) := by
  apply isInner_encode
  intro c _ h
  rw [Written.inCredentials, Bool.and_eq_true] at h
  exact beginsPath_of_inPath h.1

/-! Hosts and authorities. -/

lemma isInner_joined (groups : List Nat) : IsInner (Net.Ipv6.joined groups) := by
  induction groups with
  | nil => exact isInner_nil
  | cons g rest ih =>
    cases rest with
    | nil => exact isInner_toDigits 16 g
    | cons g' rest =>
      rw [Net.Ipv6.joined]
      · simp only [isInner_append, isInner_cons]
        exact ⟨isInner_toDigits 16 g, by decide, ih⟩
      · simp

lemma isInner_ipv6 (a : Net.Ipv6) : IsInner a.text := by
  rw [Net.Ipv6.text]
  split
  split
  · exact isInner_joined _
  · simp only [isInner_append, isInner_cons]
    exact ⟨isInner_joined _, by decide, by decide, isInner_joined _⟩

lemma isInner_ipv4 (a : Net.Ipv4) : IsInner a.text := by
  simp only [Net.Ipv4.text, decimal, isInner_append, isInner_cons, isInner_toDigits, true_and,
    and_true]
  decide

lemma isInner_toAscii? {name ascii : List Char} (h : Domain.toAscii? name = some ascii) :
    IsInner ascii := by
  simp only [Domain.toAscii?, Option.bind_eq_bind, Option.bind_eq_some_iff] at h
  obtain ⟨_, _, _, _, h⟩ := h
  split at h
  · cases h
  · next hany =>
    cases h
    intro c hc
    have hf : ¬ Domain.isForbidden c = true := fun hf => hany (List.any_eq_true.mpr ⟨c, hc, hf⟩)
    apply beginsPath_iff.mpr
    constructor
    · rintro rfl
      exact hf (by decide)
    · rintro rfl
      exact hf (by decide)

lemma isInner_bracketed {s : List Char} {host : Host} (h : Host.bracketed s = .ok host) :
    IsInner host.text := by
  rw [Host.bracketed] at h
  split at h
  · cases h
    simp only [Host.text, List.cons_append, isInner_cons, isInner_append, isInner_nil, and_true]
    exact ⟨by decide, isInner_ipv6 _, by decide⟩
  · cases h

lemma isInner_host {s : List Char} {host : Host} (h : Host.parse s = .ok host) :
    IsInner host.text := by
  simp only [Host.parse] at h
  split at h
  · exact isInner_bracketed h
  · split at h
    · cases h
    · cases h
    · next domain hd =>
      obtain ⟨name, _, hname⟩ := Option.bind_eq_some_iff.mp hd
      split at h
      · split at h
        · cases h
        · cases h
          exact isInner_ipv4 _
      · cases h
        exact isInner_toAscii? hname

lemma isInner_hostName {s : List Char} {host : Host} (h : Host.parseName s = .ok host) :
    IsInner host.text := by
  simp only [Host.parseName] at h
  split at h
  · exact isInner_bracketed h
  · split at h
    · cases h
    · next hany =>
      cases h
      apply isInner_encode
      intro c hc _
      apply beginsPath_iff.mpr
      constructor
      · rintro rfl
        exact hany (List.any_eq_true.mpr ⟨'?', hc, by decide⟩)
      · rintro rfl
        exact hany (List.any_eq_true.mpr ⟨'#', hc, by decide⟩)

lemma isInner_authority {a : Authority} (hu : IsInner a.user)
    (hp : ∀ password, a.password = some password → IsInner password) (hh : IsInner a.host.text) :
    IsInner a.text := by
  have hc : IsInner a.credentials := by
    apply isInner_ite isInner_nil
    simp only [isInner_append, isInner_cons, isInner_nil, and_true]
    refine ⟨⟨hu, ?_⟩, by decide⟩
    split
    · exact isInner_nil
    · next password h => exact isInner_cons.mpr ⟨by decide, hp password h⟩
  refine isInner_append.mpr ⟨isInner_append.mpr ⟨hc, hh⟩, ?_⟩
  split
  · exact isInner_nil
  · next port _ => exact isInner_cons.mpr ⟨by decide, isInner_toDigits 10 port⟩

lemma eq_of_guard {ε α : Type} {p : Prop} [Decidable p] {e : ε} {a b : α}
    (h : (if p then Except.error e else Except.ok a) = .ok b) : a = b := by
  split at h
  · cases h
  · exact Except.ok.inj h

lemma isInner_password {text : Option (List Char)} {password : List Char}
    (h : (match text with
      | none | some [] => none
      | some password => some (Percent.encode Written.inCredentials password)) = some password) :
    IsInner password := by
  split at h
  · cases h
  · cases h
  · cases h
    exact isInner_encode_inCredentials _

lemma isInner_of_parse_authority {k : SchemeKind} {s next rest : List Char} {a : Authority}
    (h : Authority.parse k s next = .ok (a, rest)) : IsInner a.text := by
  simp only [Authority.parse, bind, Except.bind, pure, Except.pure, throw, throwThe,
    MonadExceptOf.throw] at h
  split at h
  · cases h
  split at h
  · split at h
    · cases h
    · next host hhost =>
      have hi := isInner_hostName hhost
      split at h
      · cases h
      split at h
      · cases h
      cases eq_of_guard h
      exact isInner_authority (isInner_encode_inCredentials _) (fun _ => isInner_password) hi
  · split at h
    · cases h
    split at h
    · cases h
    · next host hhost =>
      have hi := isInner_host hhost
      split at h
      · cases h
      split at h
      · cases h
      cases eq_of_guard h
      exact isInner_authority (isInner_encode_inCredentials _) (fun _ => isInner_password) hi

/-! Paths. -/

lemma isInner_written {k : SchemeKind} {reversed : List (List Char)} {segment : List Char}
    (h : IsInner segment) : IsInner (written k reversed segment) := by
  simp only [written]
  split
  · rw [isInner_cons] at h
    apply isInner_ite
    · exact isInner_cons.mpr ⟨h.1, isInner_cons.mpr ⟨by decide, isInner_nil⟩⟩
    · exact isInner_cons.mpr h
  · exact h

lemma isInner_parent {k : SchemeKind} {reversed : List (List Char)}
    (h : ∀ segment ∈ reversed, IsInner segment) : ∀ segment ∈ parent k reversed, IsInner segment := by
  intro segment hs
  simp only [parent] at hs
  split at hs
  · split at hs
    · exact h segment hs
    · cases hs
  · exact h segment (List.mem_of_mem_tail hs)

lemma isInner_resolve {k : SchemeKind} {reversed : List (List Char)} (rest : List (List Char))
    (h : ∀ segment ∈ reversed, IsInner segment) :
    ∀ segment ∈ resolve k reversed rest, IsInner segment := by
  induction rest generalizing reversed with
  | nil =>
    intro segment hs
    exact h segment (List.mem_reverse.mp hs)
  | cons text rest ih =>
    have he := isInner_encode_inPath text
    rw [resolve]
    split
    · apply ih
      intro segment hs
      rcases List.mem_cons.mp hs with rfl | hs
      · exact isInner_written he
      · exact h segment hs
    · next dots _ =>
      have hr : ∀ segment ∈ (if dots = 2 then parent k reversed else reversed), IsInner segment := by
        split
        · exact isInner_parent h
        · exact h
      apply ih
      intro segment hs
      split at hs
      · rcases List.mem_cons.mp hs with rfl | hs
        · exact isInner_nil
        · exact hr segment hs
      · exact hr segment hs

lemma isInner_segments (k : SchemeKind) (s : List Char) :
    IsInner (Path.segments (segments k s)).text := by
  apply isInner_flatMap
  intro segment hs
  refine isInner_cons.mpr ⟨by decide, ?_⟩
  have hr : ∀ segment ∈ resolve k [] (parts '/' (s.map fun c => if k.isSlash c then '/' else c)),
      IsInner segment := isInner_resolve _ (fun _ h => absurd h List.not_mem_nil)
  unfold segments at hs
  dsimp only at hs
  split at hs
  · split at hs
    · rw [List.mem_singleton] at hs
      exact hs ▸ isInner_nil
    · exact hr segment ((List.dropWhile_sublist _).subset hs)
  · exact hr segment hs

/-! The whole URL. -/

def front (u : Url) : List Char :=
  u.scheme ++ ':' :: u.authorityText ++ u.path.text

lemma textChars_eq (u : Url) :
    u.textChars = u.front ++ marked '?' u.query ++ marked '#' u.fragment := by
  simp only [textChars, front, List.append_assoc]

/-- The two marks stand only where the query and the fragment begin. -/
structure IsMarked (u : Url) : Prop where
  front : IsInner u.front
  query : ∀ query, u.query = some query → '#' ∉ query

lemma isMarked_assemble {k : SchemeKind} {scheme s : List Char} {authority : Option Authority}
    {path : Path} (hs : IsInner scheme) (ha : ∀ a, authority = some a → IsInner a.text)
    (hp : IsInner path.text) : (assemble k scheme authority path s).IsMarked where
  front := by
    have ht : IsInner (assemble k scheme authority path s).authorityText := by
      cases authority with
      | none =>
        change IsInner (if path.beginsEmpty then ['/', '.'] else [])
        exact isInner_ite (by simp [beginsPath_iff]) isInner_nil
      | some a =>
        change IsInner ('/' :: '/' :: a.text)
        simpa [beginsPath_iff] using ha a rfl
    change IsInner (scheme ++ ':' :: _ ++ path.text)
    simp only [isInner_append, isInner_cons]
    exact ⟨⟨hs, by decide, ht⟩, hp⟩
  query := by
    intro query hq hm
    rw [assemble, queryAndFragment] at hq
    dsimp only at hq
    split at hq
    · next query' hb =>
      cases hq
      rcases mem_encode hm with ⟨hmem, _⟩ | ⟨b, hb'⟩
      · exact not_mem_before '#' s (hb ▸ .tail _ hmem)
      · exact (isInner_encodeByte b).not_mem (by decide) hb'
    · cases hq

lemma of_mem_scheme? {p : Char → Bool} (hp : ∀ n : Fin 128, isSchemeChar (Char.ofNat n) = true →
    p (Char.ofNat n).toLower = true) {s scheme rest : List Char}
    (h : scheme? s = some (scheme, rest)) : ∀ c ∈ scheme, p c = true := by
  have lower {c : Char} (hc : isSchemeChar c = true) : p c.toLower = true := by
    have hn : c.toNat < 128 := by
      simp only [isSchemeChar, Bool.or_eq_true, decide_eq_true_eq] at hc
      rcases hc with ((hc | rfl) | rfl) | rfl
      · have := toNat_of_isAlphanum hc
        omega
      all_goals decide
    have := hp ⟨c.toNat, hn⟩
    rw [Char.ofNat_toNat] at this
    exact this hc
  simp only [scheme?] at h
  split at h
  · cases h
  · next c s =>
    split at h
    · next halpha =>
      split at h
      · cases h
        intro d hd
        obtain ⟨c', hc', rfl⟩ := List.mem_map.mp hd
        rcases List.mem_cons.mp hc' with rfl | hc'
        · exact lower (by simp [isSchemeChar, Char.isAlphanum, halpha])
        · exact lower (List.all_eq_true.mp List.all_takeWhile _ hc')
      · cases h
    · cases h

lemma isInner_scheme? {s scheme rest : List Char} (h : scheme? s = some (scheme, rest)) :
    IsInner scheme :=
  of_mem_scheme? (by decide) h

lemma isMarked_withAuthority {k : SchemeKind} {scheme s : List Char} {u : Url}
    (hs : IsInner scheme) (h : withAuthority k scheme s = .ok u) : u.IsMarked := by
  simp only [withAuthority, bind, Except.bind, pure, Except.pure] at h
  split at h
  · cases h
  · next parsed hparsed =>
    obtain ⟨authority, rest⟩ := parsed
    cases h
    apply isMarked_assemble hs
    · intro a ha
      cases ha
      exact isInner_of_parse_authority hparsed
    · split
      · split
        · exact isInner_nil
        · simp [Path.text, beginsPath_iff]
      · exact isInner_segments _ _

lemma isInner_fileHost {s : List Char} {host : Host} (h : fileHost s = .ok host) :
    IsInner host.text := by
  simp only [fileHost] at h
  split at h
  · cases h
    exact isInner_nil
  · simp only [bind, Except.bind, pure, Except.pure] at h
    split at h
    · cases h
    · next parsed hparsed =>
      cases h
      split
      · exact isInner_nil
      · exact isInner_host hparsed

lemma eq_ok_of_bind {ε α β : Type} {x : Except ε α} {f : α → Except ε β} {b : β}
    (h : x.bind f = .ok b) : ∃ a, x = .ok a ∧ f a = .ok b := by
  cases x with
  | error e => cases h
  | ok a => exact ⟨a, rfl, h⟩

lemma isMarked_ofFile {scheme s : List Char} {u : Url} (hs : IsInner scheme)
    (h : ofFile scheme s = .ok u) : u.IsMarked := by
  obtain ⟨host, hhost, hu⟩ := eq_ok_of_bind h
  cases hu
  apply isMarked_assemble hs
  · intro a ha
    cases ha
    apply isInner_authority isInner_nil
    · rintro _ ⟨⟩
    · split
      · split
        · exact isInner_nil
        · exact isInner_fileHost hhost
      · exact isInner_fileHost hhost
  · exact isInner_segments _ _

lemma isMarked_ofOther {scheme s : List Char} {u : Url} (hs : IsInner scheme)
    (h : ofOther scheme s = .ok u) : u.IsMarked := by
  simp only [ofOther] at h
  split at h
  · exact isMarked_withAuthority hs h
  · next s _ =>
    cases h
    apply isMarked_assemble hs
    · intro a ha
      cases ha
    · split
      · exact isInner_segments _ _
      · apply isInner_encode
        intro c hc _
        exact List.all_eq_true.mp List.all_takeWhile _ hc

lemma isMarked_of_parse {text : String} {u : Url} (h : parse text = .ok u) : u.IsMarked := by
  rw [parse] at h
  split at h
  · cases h
  · next scheme rest hscheme =>
    have hs := isInner_scheme? hscheme
    split at h
    · exact isMarked_ofFile hs h
    · exact isMarked_ofOther hs h
    · exact isMarked_withAuthority hs h

end TierRelay.Url
