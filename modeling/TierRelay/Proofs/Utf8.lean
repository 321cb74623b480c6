import Mathlib
import TierRelay.Text.Utf8

namespace TierRelay.Text

lemma toNat_of_isAlphanum {c : Char} (h : c.isAlphanum = true) :
    48 ≤ c.toNat ∧ c.toNat ≤ 57 ∨ 65 ≤ c.toNat ∧ c.toNat ≤ 90 ∨ 97 ≤ c.toNat ∧ c.toNat ≤ 122 := by
  simp only [Char.isAlphanum, Char.isAlpha, Char.isUpper, Char.isLower, Char.isDigit,
    Bool.or_eq_true, Bool.and_eq_true, decide_eq_true_eq, UInt32.le_iff_toNat_le] at h
  change ((65 ≤ c.toNat ∧ c.toNat ≤ 90) ∨ 97 ≤ c.toNat ∧ c.toNat ≤ 122) ∨
    48 ≤ c.toNat ∧ c.toNat ≤ 57 at h
  omega

lemma toNat_ofNat_of_ascii {c : Char} (h : c.toNat < 0x80) : (UInt8.ofNat c.toNat).toNat = c.toNat := by
  rw [UInt8.toNat_ofNat']
  omega

namespace Utf8

lemma next_ascii {a : UInt8} (h : a.toNat < 0x80) (rest : Bytes) :
    next a rest = (some (Char.ofNat a.toNat), rest) := by
  simp only [next]
  rw [if_pos h]

lemma next_lead {a b : UInt8} {l : Lead} (ha : 0x80 ≤ a.toNat) (hl : lead? a.toNat = some l)
    (hb : l.low ≤ b.toNat ∧ b.toNat ≤ l.high) (after : Bytes) :
    next a (b :: after) = tails l.more (l.payload * 64 + (b.toNat - 0x80)) after := by
  simp only [next]
  rw [if_neg (by omega), hl]
  exact if_pos hb

lemma tails_cons {b : UInt8} (h : 0x80 ≤ b.toNat ∧ b.toNat ≤ 0xBF) (n value : Nat) (rest : Bytes) :
    tails (n + 1) value (b :: rest) = tails n (value * 64 + (b.toNat - 0x80)) rest := by
  rw [tails, if_pos h]

lemma lead?_two {h : Nat} (h2 : 2 ≤ h) (h32 : h < 32) : lead? (h + 0xC0) = some ⟨h, 0x80, 0xBF, 0⟩ := by
  rw [lead?, if_pos (by omega), Nat.add_sub_cancel]

lemma lead?_three {h : Nat} (h16 : h < 16) : lead? (h + 0xE0) =
    some ⟨h, if h = 0 then 0xA0 else 0x80, if h = 13 then 0x9F else 0xBF, 1⟩ := by
  by_cases h0 : h = 0
  · subst h0
    rfl
  · by_cases hd : h = 13
    · subst hd
      rfl
    · rw [lead?, if_neg (by omega), if_neg (by omega), if_neg (by omega), if_pos (by omega),
        Nat.add_sub_cancel, if_neg h0, if_neg hd]

lemma lead?_four {h : Nat} (h5 : h < 5) : lead? (h + 0xF0) =
    some ⟨h, if h = 0 then 0x90 else 0x80, if h = 4 then 0x8F else 0xBF, 2⟩ := by
  match h with
  | 0 | 1 | 2 | 3 | 4 => rfl

lemma toNat_tail (v : Nat) : (UInt8.ofNat (v % 64 + 128)).toNat = v % 64 + 128 := by
  rw [UInt8.toNat_ofNat']
  omega

lemma next_utf8EncodeChar (c : Char) : ∃ a more, String.utf8EncodeChar c = a :: more ∧
    ∀ rest, next a (more ++ rest) = (some c, rest) := by
  have hvalid : c.toNat < 0xD800 ∨ 0xDFFF < c.toNat ∧ c.toNat < 0x110000 := c.valid
  have hc : Char.ofNat c.toNat = c := Char.ofNat_toNat c
  generalize hv : c.toNat = v at hvalid hc
  have hval : c.val.toNat = v := hv
  simp only [String.utf8EncodeChar, hval]
  by_cases h1 : v ≤ 0x7F
  · rw [if_pos h1]
    have ha : (UInt8.ofNat v).toNat = v := by rw [UInt8.toNat_ofNat']; omega
    refine ⟨_, _, rfl, fun rest => ?_⟩
    rw [List.nil_append, next_ascii (by omega), ha, hc]
  rw [if_neg h1]
  by_cases h2 : v ≤ 0x7FF
  · rw [if_pos h2]
    have ha : (UInt8.ofNat (v / 64 % 32 + 192)).toNat = v / 64 + 192 := by
      rw [UInt8.toNat_ofNat']
      omega
    refine ⟨_, _, rfl, fun rest => ?_⟩
    rw [List.cons_append, List.nil_append,
      next_lead (by omega) (ha ▸ lead?_two (by omega) (by omega)) (by rw [toNat_tail]; dsimp only; omega)]
    simp only [tails, toNat_tail]
    rw [show v / 64 * 64 + (v % 64 + 128 - 128) = v by omega, hc]
  rw [if_neg h2]
  by_cases h3 : v ≤ 0xFFFF
  · rw [if_pos h3]
    have ha : (UInt8.ofNat (v / 4096 % 16 + 224)).toNat = v / 4096 + 224 := by
      rw [UInt8.toNat_ofNat']
      omega
    refine ⟨_, _, rfl, fun rest => ?_⟩
    simp only [List.cons_append, List.nil_append]
    rw [next_lead (by omega) (ha ▸ lead?_three (by omega))
        (by rw [toNat_tail]; dsimp only; split <;> split <;> omega),
      tails_cons (by rw [toNat_tail]; omega)]
    simp only [tails, toNat_tail]
    rw [show (v / 4096 * 64 + (v / 64 % 64 + 128 - 128)) * 64 + (v % 64 + 128 - 128) = v by omega, hc]
  · rw [if_neg h3]
    have ha : (UInt8.ofNat (v / 262144 % 8 + 240)).toNat = v / 262144 + 240 := by
      rw [UInt8.toNat_ofNat']
      omega
    refine ⟨_, _, rfl, fun rest => ?_⟩
    simp only [List.cons_append, List.nil_append]
    rw [next_lead (by omega) (ha ▸ lead?_four (by omega))
        (by rw [toNat_tail]; dsimp only; split <;> split <;> omega),
      tails_cons (by rw [toNat_tail]; omega), tails_cons (by rw [toNat_tail]; omega)]
    simp only [tails, toNat_tail]
    rw [show ((v / 262144 * 64 + (v / 4096 % 64 + 128 - 128)) * 64 + (v / 64 % 64 + 128 - 128)) * 64 +
      (v % 64 + 128 - 128) = v by omega, hc]

lemma scan_utf8EncodeChar (c : Char) (rest : Bytes) :
    scan (String.utf8EncodeChar c ++ rest) = some c :: scan rest := by
  obtain ⟨a, more, he, hn⟩ := next_utf8EncodeChar c
  rw [he, List.cons_append, scan, hn]

lemma scan_encode (s : List Char) : scan (encode s) = s.map some := by
  induction s with
  | nil => rw [encode, List.flatMap_nil, scan, List.map_nil]
  | cons c s ih =>
    rw [encode, List.flatMap_cons, scan_utf8EncodeChar, ← encode, ih, List.map_cons]

lemma decodeLossy_encode (s : List Char) : decodeLossy (encode s) = s := by
  rw [decodeLossy, scan_encode, List.map_map]
  exact List.map_id s

lemma decode?_encode (s : List Char) : decode? (encode s) = some s := by
  rw [decode?, scan_encode]
  induction s with
  | nil => rfl
  | cons c s ih =>
    rw [List.map_cons, List.mapM_cons, ih]
    rfl

lemma encode_append (s t : List Char) : encode (s ++ t) = encode s ++ encode t :=
  List.flatMap_append

lemma encode_ascii {s : List Char} (h : ∀ c ∈ s, c.toNat < 0x80) :
    encode s = s.map fun c => UInt8.ofNat c.toNat := by
  induction s with
  | nil => rfl
  | cons c s ih =>
    have hc : c.val.toNat ≤ 0x7F := Nat.le_of_lt_succ (h c (.head _))
    rw [encode, List.flatMap_cons, ← encode, ih fun d hd => h d (.tail _ hd), String.utf8EncodeChar,
      if_pos hc]
    rfl

end Utf8

end TierRelay.Text
