import TierRelay.Json.Printer
import TierRelay.Json.Raw
import TierRelay.Proofs.Numeral

namespace TierRelay.Json

open Text

def enders : List Char :=
  [',', ':', ']', '}', ' ', '\t', '\n', '\r']

def EndsValue (rest : List Char) : Prop :=
  ∀ c, rest.head? = some c → c ∈ enders

lemma endsValue_nil : EndsValue [] := nofun

lemma endsValue_cons {c : Char} (h : c ∈ enders) (rest : List Char) : EndsValue (c :: rest) := by
  rintro _ ⟨⟩
  exact h

lemma EndsValue.not_isDigit {rest : List Char} (h : EndsValue rest) {c : Char}
    (hc : rest.head? = some c) : c.isDigit = false := by
  have hall : ∀ c ∈ enders, c.isDigit = false := by simp [enders]
  exact hall c (h c hc)

def Piece.ofChar (c : Char) : Piece :=
  if c.toNat < 0x20 ∧ c ∉ ['\x08', '\x0c', '\n', '\r', '\t'] then .unit c.toNat else .char c

def Numeral.ofInt : Int → Numeral
  | .ofNat n => { whole := decimal n }
  | .negSucc n => { negative := true, whole := decimal (n + 1) }

inductive IsPiece : List Char → Piece → Prop
  | plain {c : Char} : c ≠ '"' → c ≠ '\\' → 0x20 ≤ c.toNat → IsPiece [c] (.char c)
  | short {e c : Char} : Token.simpleEscape? e = some c → IsPiece ['\\', e] (.char c)
  | unit {a b c d : Char} {p q r t : Nat} : hexValue? a = some p → hexValue? b = some q →
      hexValue? c = some r → hexValue? d = some t →
      IsPiece ['\\', 'u', a, b, c, d] (.unit (p * 4096 + q * 256 + r * 16 + t))

inductive Token.IsWhole : List Char → Prop
  | zero : IsWhole ['0']
  | digits {digits : List Char} : digits ≠ [] → (∀ c ∈ digits, c.isDigit = true) →
      digits.head? ≠ some '0' → IsWhole digits

inductive IsFraction : List Char → List Char → Prop
  | none : IsFraction [] []
  | some {digits : List Char} : digits ≠ [] → (∀ c ∈ digits, c.isDigit = true) →
      IsFraction ('.' :: digits) digits

inductive IsSignedDigits : List Char → Bool × List Char → Prop
  | plain {digits : List Char} : digits ≠ [] → (∀ c ∈ digits, c.isDigit = true) →
      IsSignedDigits digits (false, digits)
  | plus {digits : List Char} : digits ≠ [] → (∀ c ∈ digits, c.isDigit = true) →
      IsSignedDigits ('+' :: digits) (false, digits)
  | minus {digits : List Char} : digits ≠ [] → (∀ c ∈ digits, c.isDigit = true) →
      IsSignedDigits ('-' :: digits) (true, digits)

inductive IsExponent : List Char → Option (Bool × List Char) → Prop
  | none : IsExponent [] none
  | some {e : Char} {s : List Char} {signed : Bool × List Char} : e ∈ ['e', 'E'] →
      IsSignedDigits s signed → IsExponent (e :: s) (some signed)

inductive IsNumber : List Char → Numeral → Prop
  | positive {whole fraction digits exponent : List Char} {e : Option (Bool × List Char)} :
      Token.IsWhole whole → IsFraction fraction digits → IsExponent exponent e →
      IsNumber (whole ++ (fraction ++ exponent)) ⟨false, whole, digits, e⟩
  | negative {whole fraction digits exponent : List Char} {e : Option (Bool × List Char)} :
      Token.IsWhole whole → IsFraction fraction digits → IsExponent exponent e →
      IsNumber ('-' :: (whole ++ (fraction ++ exponent))) ⟨true, whole, digits, e⟩

namespace Token

variable {s rest : List Char} {t : Token} {ts : List Token}

lemma all?_of_first? {c : Char} {after : List Char} (hc : isSpace c = false)
    (h : first? (c :: rest) = some (t, after)) :
    all? (c :: rest) = (all? after).map (t :: ·) := by
  rw [all?, if_neg (by rw [hc]; decide)]
  split
  · next hnone =>
    rw [h] at hnone
    cases hnone
  · next hsome =>
    rw [h] at hsome
    cases hsome
    rfl

/-- Where the text stands before the end of a value, its tokens are read first. -/
def Reads (s : List Char) (ts : List Token) : Prop :=
  ∀ rest, EndsValue rest → all? (s ++ rest) = (all? rest).map (ts ++ ·)

lemma Reads.all?_eq (h : Reads s ts) : all? s = some ts := by
  have hreads := h [] endsValue_nil
  rwa [List.append_nil, all?, Option.map_some, List.append_nil] at hreads

lemma Reads.append_cons {c : Char} {mark : Token} {s' : List Char} {ts' : List Token}
    (h : Reads s ts) (hc : c ∈ enders)
    (hmark : ∀ rest, all? (c :: rest) = (all? rest).map (mark :: ·)) (h' : Reads s' ts') :
    Reads (s ++ c :: s') (ts ++ mark :: ts') := by
  intro rest hrest
  rw [List.append_assoc, List.cons_append, h _ (endsValue_cons hc _), hmark, h' rest hrest,
    Option.map_map, Option.map_map]
  congr 1
  funext ts''
  simp

lemma Reads.surround {c d : Char} {opening closing : Token} (h : Reads s ts)
    (hd : d ∈ enders)
    (hopening : ∀ rest, all? (c :: rest) = (all? rest).map (opening :: ·))
    (hclosing : ∀ rest, all? (d :: rest) = (all? rest).map (closing :: ·)) :
    Reads (c :: s ++ [d]) (opening :: ts ++ [closing]) := by
  intro rest _
  rw [List.append_assoc, List.cons_append, List.singleton_append, hopening,
    h _ (endsValue_cons hd _), hclosing, Option.map_map, Option.map_map]
  congr 1
  funext ts'
  simp

lemma all?_comma (rest : List Char) : all? (',' :: rest) = (all? rest).map (.comma :: ·) :=
  all?_of_first? (by decide) rfl

lemma all?_colon (rest : List Char) : all? (':' :: rest) = (all? rest).map (.colon :: ·) :=
  all?_of_first? (by decide) rfl

lemma reads_array (h : Reads s ts) :
    Reads ('[' :: s ++ [']']) (.openArray :: ts ++ [.closeArray]) :=
  h.surround (by decide) (fun _ => all?_of_first? (by decide) rfl)
    fun _ => all?_of_first? (by decide) rfl

lemma reads_object (h : Reads s ts) :
    Reads ('{' :: s ++ ['}']) (.openObject :: ts ++ [.closeObject]) :=
  h.surround (by decide) (fun _ => all?_of_first? (by decide) rfl)
    fun _ => all?_of_first? (by decide) rfl

lemma reads_null : Reads ['n', 'u', 'l', 'l'] [.null] :=
  fun _ _ => all?_of_first? (by decide) rfl

lemma reads_true : Reads ['t', 'r', 'u', 'e'] [.bool true] :=
  fun _ _ => all?_of_first? (by decide) rfl

lemma reads_false : Reads ['f', 'a', 'l', 's', 'e'] [.bool false] :=
  fun _ _ => all?_of_first? (by decide) rfl

/-! Strings -/

lemma string?_plain {c : Char} (hquote : c ≠ '"') (hslash : c ≠ '\\') (hcontrol : 0x20 ≤ c.toNat)
    (rest : List Char) :
    string? (c :: rest) = (string? rest).map fun (pieces, rest) => (.char c :: pieces, rest) := by
  rw [string?]
  · rw [if_neg (by rw [not_or]; exact ⟨hslash, Nat.not_lt.mpr hcontrol⟩)]
  all_goals simp_all

lemma string?_unit {a b c d : Char} {p q r t : Nat} (ha : hexValue? a = some p)
    (hb : hexValue? b = some q) (hc : hexValue? c = some r) (hd : hexValue? d = some t)
    (rest : List Char) :
    string? ('\\' :: 'u' :: a :: b :: c :: d :: rest) = (string? rest).map fun (pieces, rest) =>
      (.unit (p * 4096 + q * 256 + r * 16 + t) :: pieces, rest) := by
  rw [string?, ha, hb, hc, hd]
  simp only [Option.bind_eq_bind, Option.bind_some]
  cases string? rest with
  | none => rfl
  | some found => rfl

lemma string?_short {e c : Char} (he : e ≠ 'u') (h : simpleEscape? e = some c)
    (rest : List Char) :
    string? ('\\' :: e :: rest) = (string? rest).map fun (pieces, rest) => (.char c :: pieces, rest) := by
  rw [string?]
  · simp only [Option.bind_eq_bind, h, Option.bind_some]
    cases string? rest with
    | none => rfl
    | some found => rfl
  · rintro _ _ _ _ _ rfl
    exact absurd rfl he

lemma string?_piece {s : List Char} {piece : Piece} (h : IsPiece s piece) (rest : List Char) :
    string? (s ++ rest) = (string? rest).map fun (pieces, rest) => (piece :: pieces, rest) := by
  cases h with
  | plain hquote hslash hcontrol => exact string?_plain hquote hslash hcontrol rest
  | @short e _ he =>
    have hu : e ≠ 'u' := by
      rintro rfl
      cases he
    exact string?_short hu he rest
  | unit ha hb hc hd => exact string?_unit ha hb hc hd rest

lemma string?_flatten {texts : List (List Char)} {pieces : List Piece}
    (h : List.Forall₂ IsPiece texts pieces) (rest : List Char) :
    string? (texts.flatten ++ '"' :: rest) = some (pieces, rest) := by
  induction h with
  | nil => rw [List.flatten_nil, List.nil_append, string?]
  | cons hpiece _ ih =>
    rw [List.flatten_cons, List.append_assoc, string?_piece hpiece, ih]
    rfl

lemma reads_string {texts : List (List Char)} {pieces : List Piece}
    (h : List.Forall₂ IsPiece texts pieces) :
    Reads ('"' :: texts.flatten ++ ['"']) [.string pieces] := by
  intro rest _
  rw [List.append_assoc, List.cons_append, List.singleton_append]
  refine all?_of_first? (by decide) ?_
  rw [first?, string?_flatten h, Option.map_some]

lemma isPiece_escape (c : Char) : IsPiece (escape c) (Piece.ofChar c) := by
  by_cases hshort : c ∈ ['"', '\\', '\x08', '\x0c', '\n', '\r', '\t']
  · simp only [List.mem_cons, List.not_mem_nil, or_false] at hshort
    rcases hshort with rfl | rfl | rfl | rfl | rfl | rfl | rfl
    all_goals exact .short rfl
  simp only [List.mem_cons, List.not_mem_nil, or_false, not_or] at hshort
  obtain ⟨hquote, hslash, h8, hc, hn, hr, ht⟩ := hshort
  simp only [escape, Piece.ofChar, List.mem_cons, List.not_mem_nil, or_false, hquote, hslash, h8, hc,
    hn, hr, ht, if_false, not_false_eq_true, and_true]
  by_cases hcontrol : c.toNat < 0x20
  · rw [if_pos hcontrol, if_pos hcontrol]
    have hzero : hexValue? '0' = some 0 := by decide
    have hunit := IsPiece.unit hzero hzero
      (hexValue?_lowerHexDigit (show c.toNat / 16 < 16 by omega))
      (hexValue?_lowerHexDigit (show c.toNat % 16 < 16 by omega))
    rwa [show 0 * 4096 + 0 * 256 + c.toNat / 16 * 16 + c.toNat % 16 = c.toNat by omega] at hunit
  · rw [if_neg hcontrol, if_neg hcontrol]
    exact .plain hquote hslash (Nat.not_lt.mp hcontrol)

lemma forall₂_isPiece_escape (s : List Char) :
    List.Forall₂ IsPiece (s.map escape) (s.map Piece.ofChar) := by
  rw [List.forall₂_map_left_iff, List.forall₂_map_right_iff, List.forall₂_same]
  exact fun c _ => isPiece_escape c

lemma reads_quoted (s : String) : Reads (quoted s) [.string (s.toList.map Piece.ofChar)] := by
  have hreads := reads_string (forall₂_isPiece_escape s.toList)
  rwa [← List.flatMap_def] at hreads

lemma reads_member {nameText : List Char} {name : List Piece} (hname : Reads nameText [.string name])
    (h : Reads s ts) : Reads (nameText ++ ':' :: s) (.string name :: .colon :: ts) :=
  hname.append_cons (by simp [enders]) all?_colon h

/-! Numbers -/

lemma head?_decimal {n : Nat} (h : 0 < n) : (decimal n).head? ≠ some '0' := by
  induction n using Nat.strongRecOn with
  | ind n ih =>
    rw [decimal, Nat.toDigits_eq_if (by decide)]
    split
    · next hlt =>
      have hall : ∀ d : Fin 10, 0 < d.val → Nat.digitChar d ≠ '0' := by decide
      simpa using hall ⟨n, hlt⟩ h
    · next hge =>
      rw [List.head?_append_of_ne_nil _ Nat.toDigits_ne_nil]
      exact ih (n / 10) (by omega) (by omega)

lemma digits?_append {digits : List Char} (hne : digits ≠ [])
    (hdigits : ∀ c ∈ digits, c.isDigit = true)
    (hstop : ∀ c, rest.head? = some c → c.isDigit = false) :
    digits? (digits ++ rest) = some (digits, rest) := by
  have htake : (digits ++ rest).takeWhile Char.isDigit = digits := by
    rw [takeWhile_append_of_head hstop, List.takeWhile_eq_self_iff.mpr hdigits]
  have hdrop : (digits ++ rest).dropWhile Char.isDigit = rest := by
    rw [dropWhile_append_of_head hstop, List.dropWhile_eq_nil_iff.mpr hdigits, List.nil_append]
  rw [digits?, htake, hdrop]
  cases digits with
  | nil => exact absurd rfl hne
  | cons c digits => rfl

lemma isWhole_decimal (n : Nat) : IsWhole (decimal n) := by
  rcases Nat.eq_zero_or_pos n with rfl | hpos
  · exact .zero
  · exact .digits (decimal_ne_nil n) (fun _ => isDigit_of_mem_decimal) (head?_decimal hpos)

lemma whole?_append {digits : List Char} (h : IsWhole digits)
    (hstop : ∀ c, rest.head? = some c → c.isDigit = false) :
    whole? (digits ++ rest) = some (digits, rest) := by
  cases h with
  | zero => rfl
  | digits hne hdigits hhead =>
    rw [whole?]
    · exact digits?_append hne hdigits hstop
    · intro after heq
      have hcons := congrArg List.head? heq
      rw [List.head?_append_of_ne_nil _ hne] at hcons
      exact hhead hcons

lemma exponent?_of_endsValue (hrest : EndsValue rest) : exponent? rest = some (none, rest) := by
  rw [exponent?]
  · rintro after rfl
    exact absurd (hrest 'e' rfl) (by decide)
  · rintro after rfl
    exact absurd (hrest 'E' rfl) (by decide)

lemma first?_of_isDigit {c : Char} (hc : c.isDigit = true) :
    first? (c :: rest) = (number? false (c :: rest)).map fun (n, rest) => (.number n, rest) := by
  rw [first?]
  all_goals
    rintro _ ⟨⟩
    exact absurd hc (by decide)

lemma isSpace_of_isDigit {c : Char} (hc : c.isDigit = true) : isSpace c = false := by
  rw [← Bool.not_eq_true]
  intro h
  simp only [isSpace, Bool.or_eq_true, decide_eq_true_eq] at h
  rcases h with ((rfl | rfl) | rfl) | rfl
  all_goals exact absurd hc (by decide)

variable {fraction exponent digits : List Char} {e : Option (Bool × List Char)}

lemma head_exponent (h : IsExponent exponent e) (hrest : EndsValue rest) {c : Char}
    (hc : (exponent ++ rest).head? = some c) : c.isDigit = false ∧ c ≠ '.' := by
  cases h with
  | none =>
    refine ⟨hrest.not_isDigit hc, ?_⟩
    rintro rfl
    exact absurd (hrest '.' hc) (by simp [enders])
  | some he _ =>
    cases hc
    simp only [List.mem_cons, List.not_mem_nil, or_false] at he
    rcases he with rfl | rfl
    · decide
    · decide

lemma head_fraction (hf : IsFraction fraction digits) (he : IsExponent exponent e)
    (hrest : EndsValue rest) {c : Char} (hc : (fraction ++ (exponent ++ rest)).head? = some c) :
    c.isDigit = false := by
  cases hf with
  | none => exact (head_exponent he hrest hc).1
  | some _ _ =>
    cases hc
    decide

lemma fraction?_append (hf : IsFraction fraction digits) (he : IsExponent exponent e)
    (hrest : EndsValue rest) :
    fraction? (fraction ++ (exponent ++ rest)) = some (digits, exponent ++ rest) := by
  cases hf with
  | none =>
    rw [List.nil_append, fraction?]
    intro after heq
    exact (head_exponent he hrest (c := '.') (by rw [heq]; rfl)).2 rfl
  | some hne hdigits =>
    rw [List.cons_append, fraction?]
    exact digits?_append hne hdigits fun _ hc => (head_exponent he hrest hc).1

lemma signedDigits?_append {s : List Char} {signed : Bool × List Char} (h : IsSignedDigits s signed)
    (hrest : EndsValue rest) : signedDigits? (s ++ rest) = some (signed, rest) := by
  have hread {digits : List Char} (hne : digits ≠ []) (hdigits : ∀ c ∈ digits, c.isDigit = true) :
      digits? (digits ++ rest) = some (digits, rest) :=
    digits?_append hne hdigits fun _ => hrest.not_isDigit
  cases h with
  | plain hne hdigits =>
    have hhead : ∀ c after, s ++ rest = c :: after → c.isDigit = true := by
      intro c after heq
      obtain ⟨d, more, rfl⟩ := List.exists_cons_of_ne_nil hne
      exact (List.cons.inj heq).1 ▸ hdigits d List.mem_cons_self
    rw [signedDigits?, hread hne hdigits]
    · rfl
    · intro after heq
      exact absurd (hhead '-' after heq) (by decide)
    · intro after heq
      exact absurd (hhead '+' after heq) (by decide)
  | plus hne hdigits =>
    rw [List.cons_append, signedDigits?, hread hne hdigits]
    rfl
  | minus hne hdigits =>
    rw [List.cons_append, signedDigits?, hread hne hdigits]
    rfl

lemma exponent?_append (h : IsExponent exponent e) (hrest : EndsValue rest) :
    exponent? (exponent ++ rest) = some (e, rest) := by
  cases h with
  | none => exact exponent?_of_endsValue hrest
  | some he hs =>
    simp only [List.mem_cons, List.not_mem_nil, or_false] at he
    rcases he with rfl | rfl
    · rw [List.cons_append, exponent?, signedDigits?_append hs hrest]
      rfl
    · rw [List.cons_append, exponent?, signedDigits?_append hs hrest]
      rfl

lemma number?_append {whole : List Char} (hw : IsWhole whole) (hf : IsFraction fraction digits)
    (he : IsExponent exponent e) (hrest : EndsValue rest) (negative : Bool) :
    number? negative (whole ++ (fraction ++ (exponent ++ rest))) =
      some (⟨negative, whole, digits, e⟩, rest) := by
  simp only [number?, whole?_append hw fun _ => head_fraction hf he hrest,
    fraction?_append hf he hrest, exponent?_append he hrest, Option.bind_eq_bind, Option.bind_some]
  rfl

lemma exists_cons_of_isWhole {whole : List Char} (h : IsWhole whole) :
    ∃ c more, whole = c :: more ∧ c.isDigit = true := by
  cases h with
  | zero => exact ⟨'0', [], rfl, by decide⟩
  | digits hne hdigits =>
    obtain ⟨c, more, rfl⟩ := List.exists_cons_of_ne_nil hne
    exact ⟨c, more, rfl, hdigits c List.mem_cons_self⟩

lemma reads_number {s : List Char} {n : Numeral} (h : IsNumber s n) : Reads s [.number n] := by
  intro rest hrest
  cases h with
  | positive hw hf he =>
    have hnumber := number?_append hw hf he hrest false
    obtain ⟨c, more, rfl, hc⟩ := exists_cons_of_isWhole hw
    rw [List.append_assoc, List.append_assoc]
    rw [List.cons_append] at hnumber ⊢
    refine all?_of_first? (isSpace_of_isDigit hc) ?_
    rw [first?_of_isDigit hc, hnumber, Option.map_some]
  | negative hw hf he =>
    rw [List.cons_append, List.append_assoc, List.append_assoc]
    refine all?_of_first? (by decide) ?_
    rw [first?, number?_append hw hf he hrest true, Option.map_some]

lemma isNumber_signed (n : Int) : IsNumber (signed n) (.ofInt n) := by
  cases n with
  | ofNat n =>
    have hnumber := IsNumber.positive (isWhole_decimal n) .none .none
    rwa [List.append_nil, List.append_nil] at hnumber
  | negSucc n =>
    have hnumber := IsNumber.negative (isWhole_decimal (n + 1)) .none .none
    rwa [List.append_nil, List.append_nil] at hnumber

lemma reads_signed (n : Int) : Reads (signed n) [.number (.ofInt n)] :=
  reads_number (isNumber_signed n)

/-! Lists -/

lemma separated_eq_intercalate (separator : List Char) (texts : List (List Char)) :
    separated separator texts = separator.intercalate texts := by
  induction texts with
  | nil => rfl
  | cons text texts ih =>
    cases texts with
    | nil => rw [separated, List.intercalate_singleton]
    | cons next texts =>
      rw [separated, ih, List.intercalate_cons_cons]
      exact List.cons_ne_nil next texts

lemma reads_separated {texts : List (List Char)} {tokens : List (List Token)}
    (h : List.Forall₂ Reads texts tokens) :
    Reads (separated [','] texts) ([.comma].intercalate tokens) := by
  rw [separated_eq_intercalate]
  induction h with
  | nil =>
    intro rest _
    simp
  | @cons text ts texts tokens h hrest ih =>
    cases hrest with
    | nil =>
      rw [List.intercalate_singleton, List.intercalate_singleton]
      exact h
    | cons h' hrest' =>
      rw [List.intercalate_cons_cons, List.intercalate_cons_cons, List.append_assoc,
        List.append_assoc]
      exact h.append_cons (by decide) all?_comma ih

end Token

end TierRelay.Json
