import TierRelay.Proofs.JsonRoundTrip

namespace TierRelay.Json

open Text

/-! Values -/

mutual

inductive Written : List Char → Raw → Prop
  | null : Written ['n', 'u', 'l', 'l'] .null
  | true : Written ['t', 'r', 'u', 'e'] (.bool true)
  | false : Written ['f', 'a', 'l', 's', 'e'] (.bool false)
  | number {s : List Char} {n : Numeral} : IsNumber s n → Written s (.number n)
  | string {texts : List (List Char)} {pieces : List Piece} : List.Forall₂ IsPiece texts pieces →
      Written ('"' :: texts.flatten ++ ['"']) (.string pieces)
  | array {blanks : List Char} {texts : List (List Char)} {items : List Raw} :
      (∀ c ∈ blanks, Token.isSpace c = true) → WrittenItems texts items →
      Written ('[' :: (blanks ++ separated [','] texts) ++ [']']) (.array items)
  | object {blanks : List Char} {texts : List (List Char)} {members : List (List Piece × Raw)} :
      (∀ c ∈ blanks, Token.isSpace c = true) → WrittenMembers texts members →
      Written ('{' :: (blanks ++ separated [','] texts) ++ ['}']) (.object members)
  | before {c : Char} {s : List Char} {v : Raw} : Token.isSpace c = true → Written s v →
      Written (c :: s) v
  | after {c : Char} {s : List Char} {v : Raw} : Token.isSpace c = true → Written s v →
      Written (s ++ [c]) v

inductive WrittenItems : List (List Char) → List Raw → Prop
  | nil : WrittenItems [] []
  | cons {s : List Char} {v : Raw} {texts : List (List Char)} {items : List Raw} : Written s v →
      WrittenItems texts items → WrittenItems (s :: texts) (v :: items)

inductive WrittenMembers : List (List Char) → List (List Piece × Raw) → Prop
  | nil : WrittenMembers [] []
  | cons {nameText s : List Char} {name : List Piece} {v : Raw} {texts : List (List Char)}
      {members : List (List Piece × Raw)} : Written nameText (.string name) → Written s v →
      WrittenMembers texts members →
      WrittenMembers ((nameText ++ ':' :: s) :: texts) ((name, v) :: members)

end

namespace Token

lemma all?_cons_of_isSpace {c : Char} (hc : isSpace c = true) (rest : List Char) :
    all? (c :: rest) = all? rest := by
  rw [all?, if_pos hc]

lemma mem_enders_of_isSpace {c : Char} (hc : isSpace c = true) : c ∈ enders := by
  simp only [isSpace, Bool.or_eq_true, decide_eq_true_eq] at hc
  simp only [enders, List.mem_cons]
  tauto

variable {s : List Char} {ts : List Token}

lemma Reads.before {c : Char} (hc : isSpace c = true) (h : Reads s ts) : Reads (c :: s) ts := by
  intro rest hrest
  rw [List.cons_append, all?_cons_of_isSpace hc, h rest hrest]

lemma Reads.after {c : Char} (hc : isSpace c = true) (h : Reads s ts) : Reads (s ++ [c]) ts := by
  intro rest _
  rw [List.append_assoc, List.singleton_append, h _ (endsValue_cons (mem_enders_of_isSpace hc) rest),
    all?_cons_of_isSpace hc]

lemma Reads.blanks {blanks : List Char} (hblanks : ∀ c ∈ blanks, isSpace c = true) (h : Reads s ts) :
    Reads (blanks ++ s) ts := by
  induction blanks with
  | nil => exact h
  | cons c blanks ih =>
    obtain ⟨hc, hblanks⟩ := List.forall_mem_cons.mp hblanks
    exact (ih hblanks).before hc

end Token

mutual

theorem Written.reads {s : List Char} {v : Raw} : Written s v → Token.Reads s v.tokens
  | .null => Token.reads_null
  | .true => Token.reads_true
  | .false => Token.reads_false
  | .number h => Token.reads_number h
  | .string h => Token.reads_string h
  | .array hblanks h => Token.reads_array ((Token.reads_separated h.reads).blanks hblanks)
  | .object hblanks h => Token.reads_object ((Token.reads_separated h.reads).blanks hblanks)
  | .before hc h => h.reads.before hc
  | .after hc h => h.reads.after hc

theorem WrittenItems.reads {texts : List (List Char)} {items : List Raw} :
    WrittenItems texts items → List.Forall₂ Token.Reads texts (Raw.itemTokens items)
  | .nil => .nil
  | .cons h hrest => .cons h.reads hrest.reads

theorem WrittenMembers.reads {texts : List (List Char)} {members : List (List Piece × Raw)} :
    WrittenMembers texts members → List.Forall₂ Token.Reads texts (Raw.memberTokens members)
  | .nil => .nil
  | .cons hname h hrest =>
    .cons (Token.reads_member hname.reads h.reads) hrest.reads

end

lemma isPiece_plain {s : List Char} (h : ∀ c ∈ s, c ≠ '"' ∧ c ≠ '\\' ∧ 0x20 ≤ c.toNat) :
    List.Forall₂ IsPiece (s.map fun c => [c]) (s.map .char) := by
  induction s with
  | nil => exact .nil
  | cons c s ih =>
    obtain ⟨⟨hquote, hslash, hcontrol⟩, hs⟩ := List.forall_mem_cons.mp h
    exact .cons (.plain hquote hslash hcontrol) (ih hs)

lemma written_plain {s : List Char} (h : ∀ c ∈ s, c ≠ '"' ∧ c ≠ '\\' ∧ 0x20 ≤ c.toNat) :
    Written ('"' :: s ++ ['"']) (.string (s.map .char)) := by
  have hwritten := Written.string (isPiece_plain h)
  rwa [← List.flatMap_def, List.flatMap_singleton'] at hwritten

lemma Written.parse? {s : List Char} {v : Raw} (h : Written s v) : Raw.parse? s = some v := by
  rw [Raw.parse?, h.reads.all?_eq, Option.bind_some, Raw.ofTokens?_tokens]

/-! What a shape means -/

namespace Raw

mutual

def depth : Raw → Nat
  | .array items => itemsDepth items + 1
  | .object members => membersDepth members + 1
  | _ => 0

def itemsDepth : List Raw → Nat
  | [] => 0
  | item :: rest => max (depth item) (itemsDepth rest)

def membersDepth : List (List Piece × Raw) → Nat
  | [] => 0
  | (_, v) :: rest => max (depth v) (membersDepth rest)

end

mutual

inductive Means : Raw → Json → Prop
  | null : Means .null .null
  | bool (b : Bool) : Means (.bool b) (.bool b)
  | number {n : Numeral} {v : Json} : n.value? = some v → Means (.number n) v
  | string {pieces : List Piece} {s : String} : Json.string? pieces = some s →
      Means (.string pieces) (.string s)
  | array {items : List Raw} {values : List Json} : MeansItems items values →
      Means (.array items) (.array values)
  | object {members : List (List Piece × Raw)} {named : List (String × Json)} :
      MeansMembers members named → Means (.object members) (.ofMembers named)

inductive MeansItems : List Raw → List Json → Prop
  | nil : MeansItems [] []
  | cons {item : Raw} {v : Json} {items : List Raw} {values : List Json} : Means item v →
      MeansItems items values → MeansItems (item :: items) (v :: values)

inductive MeansMembers : List (List Piece × Raw) → List (String × Json) → Prop
  | nil : MeansMembers [] []
  | cons {pieces : List Piece} {name : String} {item : Raw} {v : Json}
      {members : List (List Piece × Raw)} {named : List (String × Json)} :
      Json.string? pieces = some name → Means item v → MeansMembers members named →
      MeansMembers ((pieces, item) :: members) ((name, v) :: named)

end

mutual

theorem value?_eq_some_iff (limit : Nat) (v : Json) : (shape : Raw) →
    (shape.value? limit = some v ↔ Means shape v ∧ shape.depth ≤ limit)
  | .null => by
    rw [value?, Option.some_inj]
    constructor
    · rintro rfl
      exact ⟨.null, Nat.zero_le _⟩
    · rintro ⟨⟨⟩, -⟩
      rfl
  | .bool b => by
    rw [value?, Option.some_inj]
    constructor
    · rintro rfl
      exact ⟨.bool b, Nat.zero_le _⟩
    · rintro ⟨⟨⟩, -⟩
      rfl
  | .number n => by
    rw [value?]
    constructor
    · exact fun h => ⟨.number h, Nat.zero_le _⟩
    · rintro ⟨h, -⟩
      cases h with
      | number h => exact h
  | .string pieces => by
    rw [value?, Option.map_eq_some_iff]
    constructor
    · rintro ⟨s, hs, rfl⟩
      exact ⟨.string hs, Nat.zero_le _⟩
    · rintro ⟨h, -⟩
      cases h with
      | string hs => exact ⟨_, hs, rfl⟩
  | .array items => by
    cases limit with
    | zero =>
      rw [value?, depth]
      simp
    | succ limit =>
      rw [value?, depth, Option.map_eq_some_iff, Nat.add_le_add_iff_right]
      constructor
      · rintro ⟨values, hvalues, rfl⟩
        obtain ⟨h, hdepth⟩ := (items?_eq_some_iff limit values items).mp hvalues
        exact ⟨.array h, hdepth⟩
      · rintro ⟨h, hdepth⟩
        cases h with
        | array h => exact ⟨_, (items?_eq_some_iff limit _ items).mpr ⟨h, hdepth⟩, rfl⟩
  | .object members => by
    cases limit with
    | zero =>
      rw [value?, depth]
      simp
    | succ limit =>
      rw [value?, depth, Option.map_eq_some_iff, Nat.add_le_add_iff_right]
      constructor
      · rintro ⟨named, hnamed, rfl⟩
        obtain ⟨h, hdepth⟩ := (members?_eq_some_iff limit named members).mp hnamed
        exact ⟨.object h, hdepth⟩
      · rintro ⟨h, hdepth⟩
        cases h with
        | object h => exact ⟨_, (members?_eq_some_iff limit _ members).mpr ⟨h, hdepth⟩, rfl⟩

theorem items?_eq_some_iff (limit : Nat) (values : List Json) : (items : List Raw) →
    (items? limit items = some values ↔ MeansItems items values ∧ itemsDepth items ≤ limit)
  | [] => by
    rw [items?, Option.some_inj]
    constructor
    · rintro rfl
      exact ⟨.nil, Nat.zero_le _⟩
    · rintro ⟨⟨⟩, -⟩
      rfl
  | item :: items => by
    rw [items?, itemsDepth, Nat.max_le]
    simp only [Option.bind_eq_bind, Option.bind_eq_some_iff, Option.pure_def, Option.some_inj]
    constructor
    · rintro ⟨v, hv, values, hvalues, rfl⟩
      obtain ⟨h, hdepth⟩ := (value?_eq_some_iff limit v item).mp hv
      obtain ⟨hrest, hrestDepth⟩ := (items?_eq_some_iff limit values items).mp hvalues
      exact ⟨.cons h hrest, hdepth, hrestDepth⟩
    · rintro ⟨h, hdepth, hrestDepth⟩
      cases h with
      | cons h hrest =>
        exact ⟨_, (value?_eq_some_iff limit _ item).mpr ⟨h, hdepth⟩, _,
          (items?_eq_some_iff limit _ items).mpr ⟨hrest, hrestDepth⟩, rfl⟩

theorem members?_eq_some_iff (limit : Nat) (named : List (String × Json)) :
    (members : List (List Piece × Raw)) →
    (members? limit members = some named ↔ MeansMembers members named ∧ membersDepth members ≤ limit)
  | [] => by
    rw [members?, Option.some_inj]
    constructor
    · rintro rfl
      exact ⟨.nil, Nat.zero_le _⟩
    · rintro ⟨⟨⟩, -⟩
      rfl
  | (pieces, item) :: members => by
    rw [members?, membersDepth, Nat.max_le]
    simp only [Option.bind_eq_bind, Option.bind_eq_some_iff, Option.pure_def, Option.some_inj]
    constructor
    · rintro ⟨name, hname, v, hv, named, hnamed, rfl⟩
      obtain ⟨h, hdepth⟩ := (value?_eq_some_iff limit v item).mp hv
      obtain ⟨hrest, hrestDepth⟩ := (members?_eq_some_iff limit named members).mp hnamed
      exact ⟨.cons hname h hrest, hdepth, hrestDepth⟩
    · rintro ⟨h, hdepth, hrestDepth⟩
      cases h with
      | cons hname h hrest =>
        exact ⟨_, hname, _, (value?_eq_some_iff limit _ item).mpr ⟨h, hdepth⟩, _,
          (members?_eq_some_iff limit _ members).mpr ⟨hrest, hrestDepth⟩, rfl⟩

end

end Raw

/-! Texts of values -/

def IsText (s : List Char) (v : Json) (most : Nat) : Prop :=
  ∃ shape, Written s shape ∧ Raw.Means shape v ∧ shape.depth ≤ most

variable {most : Nat}

lemma isSpace_of_mem_nil : ∀ c ∈ ([] : List Char), Token.isSpace c = true :=
  nofun

lemma IsText.parse? {s : String} {v : Json} (h : IsText s.toList v depthLimit) :
    Json.parse? s = some v := by
  obtain ⟨shape, hwritten, hmeans⟩ := h
  rw [Json.parse?, hwritten.parse?, Option.bind_some]
  exact (Raw.value?_eq_some_iff depthLimit v shape).mpr hmeans

lemma IsText.mono {s : List Char} {v : Json} {more : Nat} (h : IsText s v most)
    (hle : most ≤ more) : IsText s v more := by
  obtain ⟨shape, hwritten, hmeans, hdepth⟩ := h
  exact ⟨shape, hwritten, hmeans, hdepth.trans hle⟩

lemma written_quoted (s : String) : Written (quoted s) (.string (s.toList.map Piece.ofChar)) := by
  have hwritten := Written.string (Token.forall₂_isPiece_escape s.toList)
  rwa [← List.flatMap_def] at hwritten

lemma isText_null : IsText (text .null) .null most :=
  ⟨.null, by rw [text]; exact .null, .null, Nat.zero_le _⟩

lemma isText_bool (b : Bool) : IsText (text (.bool b)) (.bool b) most := by
  refine ⟨.bool b, ?_, .bool b, Nat.zero_le _⟩
  cases b with
  | true => exact .true
  | false => exact .false

lemma isText_string (s : String) : IsText (text (.string s)) (.string s) most := by
  refine ⟨_, ?_, .string (string?_map_ofChar s), Nat.zero_le _⟩
  rw [text]
  exact written_quoted s

lemma isText_array {items : List Json} (h : ∀ item ∈ items, IsText item.text item most) :
    IsText (text (.array items)) (.array items) (most + 1) := by
  have hitems : ∃ shapes, WrittenItems (itemTexts items) shapes ∧ Raw.MeansItems shapes items ∧
      Raw.itemsDepth shapes ≤ most := by
    induction items with
    | nil => exact ⟨[], by rw [itemTexts]; exact .nil, .nil, Nat.zero_le _⟩
    | cons item items ih =>
      obtain ⟨⟨shape, hwritten, hmeans, hdepth⟩, hrest⟩ := List.forall_mem_cons.mp h
      obtain ⟨shapes, hwritten', hmeans', hdepth'⟩ := ih hrest
      refine ⟨shape :: shapes, ?_, .cons hmeans hmeans', Nat.max_le.mpr ⟨hdepth, hdepth'⟩⟩
      rw [itemTexts]
      exact .cons hwritten hwritten'
  obtain ⟨shapes, hwritten, hmeans, hdepth⟩ := hitems
  refine ⟨.array shapes, ?_, .array hmeans, Nat.add_le_add_right hdepth 1⟩
  rw [text]
  exact .array isSpace_of_mem_nil hwritten

def objectText (members : List (String × List Char)) : List Char :=
  '{' :: separated [','] (members.map fun m => quoted m.1 ++ ':' :: m.2) ++ ['}']

lemma isText_object {texts : List (String × List Char)} {members : List (String × Json)}
    (h : List.Forall₂ (fun t m => t.1 = m.1 ∧ IsText t.2 m.2 most) texts members) :
    IsText (objectText texts) (.ofMembers members) (most + 1) := by
  have hmembers : ∃ shapes, WrittenMembers (texts.map fun m => quoted m.1 ++ ':' :: m.2) shapes ∧
      Raw.MeansMembers shapes members ∧ Raw.membersDepth shapes ≤ most := by
    induction h with
    | nil => exact ⟨[], .nil, .nil, Nat.zero_le _⟩
    | @cons t m texts members h _ ih =>
      obtain ⟨hname, shape, hwritten, hmeans, hdepth⟩ := h
      obtain ⟨shapes, hwritten', hmeans', hdepth'⟩ := ih
      refine ⟨(t.1.toList.map Piece.ofChar, shape) :: shapes, ?_, ?_,
        Nat.max_le.mpr ⟨hdepth, hdepth'⟩⟩
      · exact .cons (written_quoted t.1) hwritten hwritten'
      · exact .cons (hname ▸ string?_map_ofChar t.1) hmeans hmeans'
  obtain ⟨shapes, hwritten, hmeans, hdepth⟩ := hmembers
  refine ⟨.object shapes, ?_, .object hmeans, Nat.add_le_add_right hdepth 1⟩
  exact .object isSpace_of_mem_nil hwritten

lemma text_object (members : List (String × Json)) :
    text (.object members) = objectText (members.map fun m => (m.1, m.2.text)) := by
  have hmembers : memberTexts members = members.map fun m => quoted m.1 ++ ':' :: m.2.text := by
    induction members with
    | nil => rw [memberTexts, List.map_nil]
    | cons m members ih =>
      obtain ⟨name, v⟩ := m
      rw [memberTexts, ih, List.map_cons]
  rw [text, hmembers, objectText, List.map_map]
  rfl

lemma isText_ofMembers {members : List (String × Json)} (hnames : (members.map Prod.fst).Nodup)
    (h : ∀ m ∈ members, IsText m.2.text m.2 most) :
    IsText (text (.ofMembers members)) (.ofMembers members) (most + 1) := by
  obtain ⟨sorted, hsorted, hperm, hpairwise⟩ := exists_ofMembers hnames
  rw [hsorted, text_object, ← ofMembers_of_sorted hpairwise]
  refine isText_object ?_
  rw [List.forall₂_map_left_iff, List.forall₂_same]
  exact fun m hm => ⟨rfl, h m (hperm.mem_iff.mp hm)⟩

end TierRelay.Json
