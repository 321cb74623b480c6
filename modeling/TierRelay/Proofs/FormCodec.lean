import TierRelay.Proofs.Utf8
import TierRelay.Query.Form

namespace TierRelay.Text

lemma ofNat_ne_of_ne {c d : Char} (hc : c.toNat < 0x80) (hd : d.toNat < 0x80) (h : c ≠ d) :
    UInt8.ofNat c.toNat ≠ UInt8.ofNat d.toNat := by
  intro he
  have hn := congrArg UInt8.toNat he
  rw [toNat_ofNat_of_ascii hc, toNat_ofNat_of_ascii hd] at hn
  exact h (by rw [← Char.ofNat_toNat c, hn, Char.ofNat_toNat])

lemma parts_append_separator {α : Type} [DecidableEq α] (separator : α) (s rest : List α) :
    parts separator (s ++ separator :: rest) = parts separator s ++ parts separator rest := by
  induction s with
  | nil => simp [parts]
  | cons a s ih =>
    by_cases ha : a = separator
    · simp only [List.cons_append, parts, if_pos ha, ih]
    · rw [List.cons_append, parts, parts, if_neg ha, if_neg ha, ih]
      cases hp : parts separator s with
      | nil => exact absurd hp (parts_ne_nil separator s)
      | cons part others => rfl

namespace Percent

lemma decode_cons_of_ne {b : UInt8} (h : b ≠ 0x25) (rest : Bytes) :
    decode (b :: rest) = b :: decode rest := by
  match rest with
  | [] | [_] => simp [decode]
  | high :: low :: rest => rw [decode, if_neg h]

lemma decode_cons_digits {n m : Nat} (hn : n < 16) (hm : m < 16) (rest : Bytes) :
    decode (0x25 :: UInt8.ofNat (upperHexDigit n).toNat :: UInt8.ofNat (upperHexDigit m).toNat ::
      rest) = UInt8.ofNat (n * 16 + m) :: decode rest := by
  have ascii {k : Nat} (hk : k < 16) : (upperHexDigit k).toNat < 0x80 := by
    have all : ∀ d : Fin 16, (upperHexDigit d).toNat < 0x80 := by decide
    exact all ⟨k, hk⟩
  have value {k : Nat} (hk : k < 16) :
      hexValue? (Char.ofNat (UInt8.ofNat (upperHexDigit k).toNat).toNat) = some k := by
    rw [toNat_ofNat_of_ascii (ascii hk), Char.ofNat_toNat, hexValue?_upperHexDigit hk]
  rw [decode, if_pos rfl, byte?, value hn, value hm]
  rfl

end Percent

end TierRelay.Text

namespace TierRelay.Query.Form

open TierRelay.Text

def writes (c : Char) : Bool :=
  keeps c || c = '+' || c = '%'

lemma toNat_lt_of_keeps {c : Char} (h : keeps c = true) : c.toNat < 0x80 := by
  simp only [keeps, Bool.or_eq_true, decide_eq_true_eq] at h
  rcases h with (((h | rfl) | rfl) | rfl) | rfl
  · have := toNat_of_isAlphanum h
    omega
  all_goals decide

lemma toNat_lt_of_writes {c : Char} (h : writes c = true) : c.toNat < 0x80 := by
  simp only [writes, Bool.or_eq_true, decide_eq_true_eq] at h
  rcases h with (h | rfl) | rfl
  · exact toNat_lt_of_keeps h
  · decide
  · decide

lemma ne_of_writes {c d : Char} (h : writes c = true) (hd : writes d = false) : c ≠ d := by
  rintro rfl
  exact absurd h (by simp [hd])

lemma writes_of_mem_encodeByte {b : UInt8} {c : Char} (h : c ∈ Percent.encodeByte b) :
    writes c = true := by
  have digit {n : Nat} (hn : n < 16) : writes (upperHexDigit n) = true := by
    have all : ∀ d : Fin 16, writes (upperHexDigit d) = true := by decide
    exact all ⟨n, hn⟩
  have hb := b.toNat_lt
  simp only [Percent.encodeByte, List.mem_cons, List.not_mem_nil, or_false] at h
  rcases h with rfl | rfl | rfl
  · decide
  · exact digit (by omega)
  · exact digit (by omega)

def encodeChar (c : Char) : List Char :=
  if c = ' ' then ['+'] else Percent.encode keeps [c]

lemma encode_eq (s : String) : encode s = s.toList.flatMap encodeChar := rfl

lemma encodeChar_of_not_keeps {c : Char} (hs : c ≠ ' ') (hk : keeps c = false) :
    encodeChar c = (String.utf8EncodeChar c).flatMap Percent.encodeByte := by
  rw [encodeChar, if_neg hs, Percent.encode, List.flatMap_singleton, if_neg (by simp [hk])]

lemma encodeChar_of_keeps {c : Char} (hk : keeps c = true) : encodeChar c = [c] := by
  have hs : c ≠ ' ' := by rintro rfl; exact absurd hk (by decide)
  rw [encodeChar, if_neg hs, Percent.encode, List.flatMap_singleton, if_pos hk]

lemma writes_of_mem_encodeChar {c d : Char} (h : c ∈ encodeChar d) : writes c = true := by
  by_cases hs : d = ' '
  · subst hs
    rw [encodeChar, if_pos rfl, List.mem_singleton] at h
    exact h ▸ rfl
  · by_cases hk : keeps d = true
    · rw [encodeChar_of_keeps hk, List.mem_singleton] at h
      simp [h, writes, hk]
    · rw [encodeChar_of_not_keeps hs (by simpa using hk)] at h
      obtain ⟨b, _, hb⟩ := List.mem_flatMap.mp h
      exact writes_of_mem_encodeByte hb

lemma writes_of_mem_encode {s : String} {c : Char} (h : c ∈ encode s) : writes c = true := by
  obtain ⟨d, _, hc⟩ := List.mem_flatMap.mp h
  exact writes_of_mem_encodeChar hc

def spaced (s : Bytes) : Bytes :=
  s.map fun b => if b = 0x2B then 0x20 else b

lemma decode_eq (s : Bytes) :
    decode s = String.ofList (Utf8.decodeLossy (Percent.decode (spaced s))) := rfl

lemma spaced_append (s t : Bytes) : spaced (s ++ t) = spaced s ++ spaced t :=
  List.map_append

lemma decode_encodeByte (b : UInt8) (rest : Bytes) :
    Percent.decode (spaced (Utf8.encode (Percent.encodeByte b)) ++ rest) =
      b :: Percent.decode rest := by
  have hb := b.toNat_lt
  have ascii : ∀ c ∈ Percent.encodeByte b, c.toNat < 0x80 :=
    fun c hc => toNat_lt_of_writes (writes_of_mem_encodeByte hc)
  have noPlus {n : Nat} (hn : n < 16) : UInt8.ofNat (upperHexDigit n).toNat ≠ 0x2B := by
    have all : ∀ d : Fin 16, UInt8.ofNat (upperHexDigit d).toNat ≠ 0x2B := by decide
    exact all ⟨n, hn⟩
  have hs : spaced (Utf8.encode (Percent.encodeByte b)) =
      [0x25, UInt8.ofNat (upperHexDigit (b.toNat / 16)).toNat,
        UInt8.ofNat (upperHexDigit (b.toNat % 16)).toNat] := by
    rw [Utf8.encode_ascii ascii]
    simp only [Percent.encodeByte, spaced, List.map_cons, List.map_nil,
      if_neg (noPlus (show b.toNat / 16 < 16 by omega)),
      if_neg (noPlus (show b.toNat % 16 < 16 by omega))]
    rfl
  rw [hs, List.cons_append, List.cons_append, List.cons_append, List.nil_append,
    Percent.decode_cons_digits (by omega) (by omega),
    show b.toNat / 16 * 16 + b.toNat % 16 = b.toNat by omega, UInt8.ofNat_toNat]

lemma decode_encodeBytes (bytes rest : Bytes) :
    Percent.decode (spaced (Utf8.encode (bytes.flatMap Percent.encodeByte)) ++ rest) =
      bytes ++ Percent.decode rest := by
  induction bytes with
  | nil => rfl
  | cons b bytes ih =>
    rw [List.flatMap_cons, Utf8.encode_append, spaced_append, List.append_assoc, decode_encodeByte,
      ih, List.cons_append]

lemma decode_encodeChar (c : Char) (rest : Bytes) :
    Percent.decode (spaced (Utf8.encode (encodeChar c)) ++ rest) =
      String.utf8EncodeChar c ++ Percent.decode rest := by
  by_cases hs : c = ' '
  · subst hs
    exact Percent.decode_cons_of_ne (by decide) rest
  by_cases hk : keeps c = true
  · have hc := toNat_lt_of_keeps hk
    have hplus := ofNat_ne_of_ne hc (d := '+') (by decide) (by rintro rfl; exact absurd hk (by decide))
    have hpercent := ofNat_ne_of_ne hc (d := '%') (by decide)
      (by rintro rfl; exact absurd hk (by decide))
    have he : Utf8.encode [c] = [UInt8.ofNat c.toNat] := Utf8.encode_ascii (by simpa using hc)
    have hu : String.utf8EncodeChar c = [UInt8.ofNat c.toNat] := by
      rw [← he, Utf8.encode, List.flatMap_singleton]
    have hspaced : spaced [UInt8.ofNat c.toNat] = [UInt8.ofNat c.toNat] := by
      exact congrArg (· :: []) (if_neg hplus)
    rw [encodeChar_of_keeps hk, he, hu, hspaced]
    exact Percent.decode_cons_of_ne hpercent rest
  · rw [encodeChar_of_not_keeps hs (by simpa using hk), decode_encodeBytes]

lemma decode_encode (s : String) : decode (Utf8.encode (encode s)) = s := by
  have hd : ∀ chars : List Char, Percent.decode
      (spaced (Utf8.encode (chars.flatMap encodeChar))) = Utf8.encode chars := by
    intro chars
    induction chars with
    | nil => rfl
    | cons c chars ih =>
      rw [List.flatMap_cons, Utf8.encode_append, spaced_append, decode_encodeChar, ih]
      rfl
  rw [decode_eq, encode_eq, hd, Utf8.decodeLossy_encode, String.ofList_toList]

lemma not_mem_utf8_encode {s : String} {d : Char} (hd : writes d = false) (ha : d.toNat < 0x80) :
    UInt8.ofNat d.toNat ∉ Utf8.encode (encode s) := by
  rw [Utf8.encode_ascii fun c hc => toNat_lt_of_writes (writes_of_mem_encode hc)]
  intro h
  obtain ⟨c, hc, he⟩ := List.mem_map.mp h
  have hw := writes_of_mem_encode hc
  exact ofNat_ne_of_ne (toNat_lt_of_writes hw) ha (ne_of_writes hw hd) he

lemma utf8_encodePair (pair : String × String) :
    Utf8.encode (encodePair pair) =
      Utf8.encode (encode pair.1) ++ 0x3D :: Utf8.encode (encode pair.2) := by
  rw [encodePair, Utf8.encode_append, ← List.singleton_append, Utf8.encode_append]
  rfl

lemma decodePair_encodePair (pair : String × String) :
    decodePair (Utf8.encode (encodePair pair)) = pair := by
  have h : (0x3D : UInt8) ∉ Utf8.encode (encode pair.1) :=
    not_mem_utf8_encode (d := '=') (by decide) (by decide)
  rw [utf8_encodePair, decodePair, before_append h, after?_append h, Option.getD_some,
    decode_encode, decode_encode]

lemma pairs_encodePair (pair : String × String) : pairs (encodePair pair) = [pair] := by
  have amp (s : String) : (0x26 : UInt8) ∉ Utf8.encode (encode s) :=
    not_mem_utf8_encode (d := '&') (by decide) (by decide)
  have h : (0x26 : UInt8) ∉ Utf8.encode (encodePair pair) := by
    rw [utf8_encodePair, List.mem_append, List.mem_cons]
    rintro (h | h | h)
    · exact amp _ h
    · exact absurd h (by decide)
    · exact amp _ h
  have hne : Utf8.encode (encodePair pair) ≠ [] := by simp [utf8_encodePair]
  rw [pairs, parts_of_not_mem h, List.filter_cons_of_pos (by simpa using hne), List.filter_nil,
    List.map_singleton, decodePair_encodePair]

lemma pairs_append_ampersand (s t : List Char) : pairs (s ++ '&' :: t) = pairs s ++ pairs t := by
  have h : Utf8.encode (s ++ '&' :: t) = Utf8.encode s ++ 0x26 :: Utf8.encode t := by
    rw [Utf8.encode_append, ← List.singleton_append, Utf8.encode_append]
    rfl
  rw [pairs, h, parts_append_separator, List.filter_append, List.map_append]
  rfl

lemma pairs_append_pair (query : List Char) (pair : String × String) :
    pairs ((if query = [] then [] else query ++ ['&']) ++ encodePair pair) =
      pairs query ++ [pair] := by
  by_cases hq : query = []
  · rw [if_pos hq, hq, List.nil_append, pairs_encodePair]
    rfl
  · rw [if_neg hq, List.append_assoc, List.singleton_append, pairs_append_ampersand,
      pairs_encodePair]

lemma pairs_append (query : List Char) (added : Pairs) :
    pairs (append query added) = pairs query ++ added := by
  induction added generalizing query with
  | nil => rw [append, List.foldl_nil, List.append_nil]
  | cons pair added ih =>
    rw [append, List.foldl_cons, ← append, ih, pairs_append_pair, List.append_assoc,
      List.singleton_append]

lemma mem_append {c : Char} {query : List Char} {added : Pairs} (h : c ∈ append query added) :
    c ∈ query ∨ writes c = true ∨ c = '&' ∨ c = '=' := by
  induction added generalizing query with
  | nil => exact Or.inl h
  | cons pair added ih =>
    rw [append, List.foldl_cons, ← append] at h
    rcases ih h with h | h
    · rcases List.mem_append.mp h with h | h
      · split at h
        · cases h
        · rcases List.mem_append.mp h with h | h
          · exact Or.inl h
          · exact Or.inr (Or.inr (Or.inl (List.mem_singleton.mp h)))
      · rcases List.mem_append.mp h with h | h
        · exact Or.inr (Or.inl (writes_of_mem_encode h))
        · rcases List.mem_cons.mp h with h | h
          · exact Or.inr (Or.inr (Or.inr h))
          · exact Or.inr (Or.inl (writes_of_mem_encode h))
    · exact Or.inr h

end TierRelay.Query.Form
