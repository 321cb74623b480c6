import TierRelay.Proofs.BuiltUrl

/-!
The four parameters add little to any base, so a client refuses only URLs built from bases that are
nearly as long as the longest target.
-/

namespace TierRelay

open Text Calendar Query

namespace Text

lemma length_decimal_le {n most : Nat} (hm : 0 < most) (h : n < 10 ^ most) :
    (decimal n).length ≤ most :=
  (Nat.length_toDigits_le_iff (by decide) hm).mpr h

lemma length_padded_le {width n most : Nat} (hw : width ≤ most) (hm : 0 < most)
    (h : n < 10 ^ most) : (padded width n).length ≤ most := by
  have := length_decimal_le hm h
  simp only [padded, List.length_append, List.length_replicate]
  omega

end Text

namespace Calendar.DateTime

lemma length_yearText_le (d : Date) : (yearText d.year).length ≤ 7 := by
  have hd := d.isDay
  rw [IsDay, firstYear, lastYear] at hd
  simp only [yearText]
  split
  · exact length_padded_le (by decide) (by decide) (by omega)
  · have habs : (padded 4 d.year.natAbs).length ≤ 6 :=
      length_padded_le (by decide) (by decide) (by omega)
    rw [List.length_cons]
    omega

lemma length_canonical_le (t : DateTime) : t.canonical.length ≤ 22 := by
  have hyear := length_yearText_le t.date
  have hd := t.date.isDay
  have hmonth := Date.monthLength_le t.date.year t.date.month
  have ht := t.time.isTime
  rw [IsDay] at hd
  rw [IsTime] at ht
  rw [canonical, String.length_ofList, canonicalText, secondText]
  simp only [List.length_append, List.length_cons]
  rw [length_padded (by decide) (by omega), length_padded (by decide) (by omega),
    length_padded (by decide) (by omega), length_padded (by decide) (by omega),
    length_padded (by decide) (by split <;> omega)]
  omega

end Calendar.DateTime

namespace Query.Form

lemma length_encodeBytes (bytes : Bytes) :
    (bytes.flatMap Percent.encodeByte).length = 3 * bytes.length := by
  induction bytes with
  | nil => rfl
  | cons b bytes ih =>
    rw [List.flatMap_cons, List.length_append, ih, List.length_cons]
    simp only [Percent.encodeByte, List.length_cons, List.length_nil]
    omega

lemma length_encodeChar_le (c : Char) : (encodeChar c).length ≤ 12 := by
  by_cases hs : c = ' '
  · rw [encodeChar, if_pos hs]
    decide
  · by_cases hk : keeps c = true
    · rw [encodeChar_of_keeps hk, List.length_singleton]
      decide
    · rw [encodeChar_of_not_keeps hs (by simpa using hk), length_encodeBytes,
        String.length_utf8EncodeChar]
      have := c.utf8Size_le_four
      omega

lemma length_encode_le (s : String) : (encode s).length ≤ 12 * s.length := by
  rw [encode_eq, ← String.length_toList]
  induction s.toList with
  | nil => exact Nat.le_refl _
  | cons c s ih =>
    have := length_encodeChar_le c
    rw [List.flatMap_cons, List.length_append, List.length_cons]
    omega

lemma length_utf8_encode_le (s : String) : (Utf8.encode (encode s)).length ≤ 12 * s.length := by
  rw [Utf8.encode_ascii fun _ hc => toNat_lt_of_writes (writes_of_mem_encode hc), List.length_map]
  exact length_encode_le s

def weight (pair : String × String) : Nat :=
  12 * (pair.1.length + pair.2.length) + 2

lemma length_utf8_append_pair_le (query : List Char) (pair : String × String) :
    (Utf8.encode ((if query = [] then [] else query ++ ['&']) ++ encodePair pair)).length ≤
      (Utf8.encode query).length + weight pair := by
  have hname := length_utf8_encode_le pair.1
  have hvalue := length_utf8_encode_le pair.2
  have hquery : (Utf8.encode (if query = [] then [] else query ++ ['&'])).length ≤
      (Utf8.encode query).length + 1 := by
    split
    · exact Nat.zero_le _
    · rw [Utf8.encode_append, List.length_append]
      exact Nat.le_refl _
  rw [Utf8.encode_append, List.length_append, utf8_encodePair, List.length_append,
    List.length_cons, weight]
  omega

lemma length_utf8_append_le (query : List Char) (added : Pairs) :
    (Utf8.encode (append query added)).length ≤
      (Utf8.encode query).length + (added.map weight).sum := by
  induction added generalizing query with
  | nil => exact Nat.le_refl _
  | cons pair added ih =>
    have hpair := length_utf8_append_pair_le query pair
    have hadded := ih ((if query = [] then [] else query ++ ['&']) ++ encodePair pair)
    rw [append, List.foldl_cons, ← append, List.map_cons, List.sum_cons]
    omega

end Query.Form

lemma Pagination.weight_pairs_le (q : Pagination) : (q.pairs.map Form.weight).sum ≤ 1200 := by
  have hword (n : UInt32) : (String.ofList (decimal n.toNat)).length ≤ 10 := by
    rw [String.length_ofList]
    exact length_decimal_le (by decide) (by have := n.toNat_lt; omega)
  have hpage := hword q.page
  have hsize := hword q.pageSize
  have hstart := q.startDate.length_canonical_le
  have hend := q.endDate.length_canonical_le
  have hnames : "page".length = 4 ∧ "pageSize".length = 8 ∧ "startDate".length = 9 ∧
      "endDate".length = 7 := by decide
  simp only [pairs, List.map_cons, List.map_nil, List.sum_cons, List.sum_nil, Form.weight]
  omega

namespace Url

def byteLength (u : Url) : Nat :=
  (Utf8.encode u.textChars).length

lemma byteLength_eq (u : Url) : u.byteLength = (Utf8.encode u.front).length +
    (Utf8.encode (marked '?' u.query)).length + (Utf8.encode (marked '#' u.fragment)).length := by
  rw [byteLength, textChars_eq, Utf8.encode_append, Utf8.encode_append, List.length_append,
    List.length_append]

lemma byteLength_appendPairs_le (u : Url) (q : Pagination) :
    (u.appendPairs q.pairs).byteLength ≤ u.byteLength + 1201 := by
  have hquery : (Utf8.encode (u.query.getD [])).length ≤
      (Utf8.encode (marked '?' u.query)).length := by
    cases u.query with
    | none => exact Nat.le_refl _
    | some query =>
      rw [marked, ← List.singleton_append, Utf8.encode_append, List.length_append]
      exact Nat.le_add_left _ _
  have hmark : ∀ query, (Utf8.encode (marked '?' (some query))).length =
      (Utf8.encode query).length + 1 := by
    intro query
    rw [marked, ← List.singleton_append, Utf8.encode_append, List.length_append, Nat.add_comm]
    rfl
  have hadded := Form.length_utf8_append_le (u.query.getD []) q.pairs
  have hpairs := q.weight_pairs_le
  rw [byteLength_eq, byteLength_eq, front_appendPairs, appendPairs, hmark]
  dsimp only
  omega

end Url

end TierRelay
