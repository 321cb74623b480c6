import TierRelay.Proofs.JsonTokens
import TierRelay.Proofs.NamedValues

/-!
The tokens of a shape are read to that shape without any condition; how deep it may nest is asked
where its value is taken.
-/

namespace TierRelay.Json

open Text

namespace Raw

mutual

def tokens : Raw → List Token
  | .null => [.null]
  | .bool b => [.bool b]
  | .number n => [.number n]
  | .string pieces => [.string pieces]
  | .array items => .openArray :: [Token.comma].intercalate (itemTokens items) ++ [.closeArray]
  | .object members =>
    .openObject :: [Token.comma].intercalate (memberTokens members) ++ [.closeObject]

def itemTokens : List Raw → List (List Token)
  | [] => []
  | item :: rest => tokens item :: itemTokens rest

def memberTokens : List (List Piece × Raw) → List (List Token)
  | [] => []
  | (name, item) :: rest => (.string name :: .colon :: tokens item) :: memberTokens rest

end

/-- Wherever a value may begin, these tokens lead to just after the value. -/
def Builds (ts : List Token) (v : Raw) : Prop :=
  ∀ expect frames rest, expect = .value ∨ expect = .itemOrClose →
    State.run ⟨frames, expect⟩ (ts ++ rest) = State.run ⟨frames, .after v⟩ rest

lemma run_items {items : List Raw} (hne : items ≠ []) (h : ∀ item ∈ items, Builds item.tokens item)
    {expect : Expect} (hexpect : expect = .value ∨ expect = .itemOrClose) (read : List Raw)
    (frames : List Frame) (rest : List Token) :
    State.run ⟨.array read :: frames, expect⟩
        ([.comma].intercalate (itemTokens items) ++ .closeArray :: rest) =
      State.run ⟨frames, .after (.array (read.reverse ++ items))⟩ rest := by
  induction items generalizing read expect with
  | nil => exact absurd rfl hne
  | cons item items ih =>
    obtain ⟨hitem, hitems⟩ := List.forall_mem_cons.mp h
    cases items with
    | nil =>
      rw [itemTokens, itemTokens, List.intercalate_singleton, hitem _ _ _ hexpect,
        ← List.reverse_cons]
      rfl
    | cons next items =>
      rw [itemTokens, itemTokens, List.intercalate_cons_cons, List.append_assoc, List.append_assoc,
        hitem _ _ _ hexpect, List.append_cons read.reverse, ← List.reverse_cons,
        ← ih (List.cons_ne_nil _ _) hitems (.inl rfl)]
      rfl

lemma run_name {expect : Expect} (hexpect : expect = .name ∨ expect = .nameOrClose)
    (read : List (List Piece × Raw)) (name : List Piece) (frames : List Frame) (rest : List Token) :
    State.run ⟨.object read :: frames, expect⟩ (.string name :: .colon :: rest) =
      State.run ⟨.member read name :: frames, .value⟩ rest := by
  rcases hexpect with rfl | rfl
  · rfl
  · rfl

lemma run_members {members : List (List Piece × Raw)} (hne : members ≠ [])
    (h : ∀ m ∈ members, Builds m.2.tokens m.2) {expect : Expect}
    (hexpect : expect = .name ∨ expect = .nameOrClose) (read : List (List Piece × Raw))
    (frames : List Frame) (rest : List Token) :
    State.run ⟨.object read :: frames, expect⟩
        ([.comma].intercalate (memberTokens members) ++ .closeObject :: rest) =
      State.run ⟨frames, .after (.object (read.reverse ++ members))⟩ rest := by
  induction members generalizing read expect with
  | nil => exact absurd rfl hne
  | cons m members ih =>
    obtain ⟨name, item⟩ := m
    obtain ⟨hitem, hitems⟩ := List.forall_mem_cons.mp h
    cases members with
    | nil =>
      rw [memberTokens, memberTokens, List.intercalate_singleton, List.cons_append,
        List.cons_append, run_name hexpect, hitem _ _ _ (.inl rfl), ← List.reverse_cons]
      rfl
    | cons next members =>
      rw [memberTokens, memberTokens, List.intercalate_cons_cons, List.append_assoc,
        List.append_assoc, List.cons_append, List.cons_append, run_name hexpect,
        hitem _ _ _ (.inl rfl), List.append_cons read.reverse, ← List.reverse_cons,
        ← ih (List.cons_ne_nil _ _) hitems (.inl rfl)]
      rfl

lemma builds_array {items : List Raw} (h : ∀ item ∈ items, Builds item.tokens item) :
    Builds (Raw.array items).tokens (.array items) := by
  intro expect frames rest hexpect
  have hopen : State.run ⟨frames, expect⟩ ((Raw.array items).tokens ++ rest) =
      State.run ⟨.array [] :: frames, .itemOrClose⟩
        ([.comma].intercalate (itemTokens items) ++ .closeArray :: rest) := by
    rw [tokens, List.append_assoc]
    rcases hexpect with rfl | rfl
    · rfl
    · rfl
  rw [hopen]
  by_cases hne : items = []
  · subst hne
    rfl
  · exact run_items hne h (.inr rfl) [] frames rest

lemma builds_object {members : List (List Piece × Raw)}
    (h : ∀ m ∈ members, Builds m.2.tokens m.2) :
    Builds (Raw.object members).tokens (.object members) := by
  intro expect frames rest hexpect
  have hopen : State.run ⟨frames, expect⟩ ((Raw.object members).tokens ++ rest) =
      State.run ⟨.object [] :: frames, .nameOrClose⟩
        ([.comma].intercalate (memberTokens members) ++ .closeObject :: rest) := by
    rw [tokens, List.append_assoc]
    rcases hexpect with rfl | rfl
    · rfl
    · rfl
  rw [hopen]
  by_cases hne : members = []
  · subst hne
    rfl
  · exact run_members hne h (.inr rfl) [] frames rest

-- By recursion on the shape, through the lists that it holds.
mutual

theorem builds_tokens : (v : Raw) → Builds v.tokens v
  | .null => by rintro _ _ _ (rfl | rfl) <;> rfl
  | .bool _ => by rintro _ _ _ (rfl | rfl) <;> rfl
  | .number _ => by rintro _ _ _ (rfl | rfl) <;> rfl
  | .string _ => by rintro _ _ _ (rfl | rfl) <;> rfl
  | .array items => builds_array (builds_items items)
  | .object members => builds_object (builds_members members)

theorem builds_items : (items : List Raw) → ∀ item ∈ items, Builds item.tokens item
  | [] => List.forall_mem_nil _
  | item :: rest => List.forall_mem_cons.mpr ⟨builds_tokens item, builds_items rest⟩

theorem builds_members : (members : List (List Piece × Raw)) →
    ∀ m ∈ members, Builds m.2.tokens m.2
  | [] => List.forall_mem_nil _
  | (_, item) :: rest => List.forall_mem_cons.mpr ⟨builds_tokens item, builds_members rest⟩

end

lemma ofTokens?_tokens (v : Raw) : ofTokens? v.tokens = some v := by
  have hrun := builds_tokens v .value [] [] (.inl rfl)
  rw [List.append_nil] at hrun
  rw [ofTokens?, State.start, hrun]
  rfl

end Raw

/-- Integers as wide as a reader takes them, members in order, and no floats. -/
inductive IsExact : Json → Prop
  | null : IsExact .null
  | bool (b : Bool) : IsExact (.bool b)
  | int {n : Int} : -2 ^ 63 ≤ n → n < 2 ^ 64 → IsExact (.int n)
  | string (s : String) : IsExact (.string s)
  | array {items : List Json} : (∀ item ∈ items, IsExact item) → IsExact (.array items)
  | object {members : List (String × Json)} : members.Pairwise (fun a b => a.1 < b.1) →
      (∀ m ∈ members, IsExact m.2) → IsExact (.object members)

mutual

def depth : Json → Nat
  | .array items => itemsDepth items + 1
  | .object members => membersDepth members + 1
  | _ => 0

def itemsDepth : List Json → Nat
  | [] => 0
  | item :: rest => max (depth item) (itemsDepth rest)

def membersDepth : List (String × Json) → Nat
  | [] => 0
  | (_, v) :: rest => max (depth v) (membersDepth rest)

end

lemma itemsDepth_le_iff {items : List Json} {most : Nat} :
    itemsDepth items ≤ most ↔ ∀ item ∈ items, item.depth ≤ most := by
  induction items with
  | nil => simp [itemsDepth]
  | cons item rest ih => rw [itemsDepth, Nat.max_le, ih, List.forall_mem_cons]

lemma membersDepth_le_iff {members : List (String × Json)} {most : Nat} :
    membersDepth members ≤ most ↔ ∀ m ∈ members, m.2.depth ≤ most := by
  induction members with
  | nil => simp [membersDepth]
  | cons m rest ih =>
    obtain ⟨name, v⟩ := m
    rw [membersDepth, Nat.max_le, ih, List.forall_mem_cons]

/-! Members in order -/

lemma insert_eq_append {name : String} {members : List (String × Json)}
    (h : ∀ m ∈ members, m.1 < name) (v : Json) :
    insert name v members = members ++ [(name, v)] := by
  induction members with
  | nil => rfl
  | cons m rest ih =>
    obtain ⟨hm, hrest⟩ := List.forall_mem_cons.mp h
    obtain ⟨name', v'⟩ := m
    rw [insert, if_neg (lt_asymm hm), if_neg (ne_of_gt hm), ih hrest, List.cons_append]

lemma foldl_insert_eq_append {members : List (String × Json)} (sorted : List (String × Json))
    (h : (sorted ++ members).Pairwise fun a b => a.1 < b.1) :
    members.foldl (fun sorted m => insert m.1 m.2 sorted) sorted = sorted ++ members := by
  induction members generalizing sorted with
  | nil => rw [List.foldl_nil, List.append_nil]
  | cons m rest ih =>
    have hbefore : ∀ m' ∈ sorted, m'.1 < m.1 := fun m' hm' =>
      (List.pairwise_append.mp h).2.2 m' hm' m List.mem_cons_self
    rw [List.append_cons] at h
    rw [List.foldl_cons, insert_eq_append hbefore, ih _ h, ← List.append_cons]

lemma ofMembers_of_sorted {members : List (String × Json)}
    (h : members.Pairwise fun a b => a.1 < b.1) : ofMembers members = .object members := by
  rw [ofMembers, foldl_insert_eq_append [] h, List.nil_append]

lemma mem_insert {m : String × Json} {name : String} {v : Json} {members : List (String × Json)}
    (h : m ∈ insert name v members) : m = (name, v) ∨ m ∈ members := by
  induction members with
  | nil => exact .inl (List.mem_singleton.mp h)
  | cons m' rest ih =>
    obtain ⟨name', v'⟩ := m'
    rw [insert] at h
    split at h
    · exact List.mem_cons.mp h
    · split at h
      · exact (List.mem_cons.mp h).imp_right (List.mem_cons_of_mem _)
      · rcases List.mem_cons.mp h with rfl | h
        · exact .inr List.mem_cons_self
        · exact (ih h).imp_right (List.mem_cons_of_mem _)

lemma pairwise_insert {members : List (String × Json)}
    (h : members.Pairwise fun a b => a.1 < b.1) (name : String) (v : Json) :
    (insert name v members).Pairwise fun a b => a.1 < b.1 := by
  induction members with
  | nil => exact List.pairwise_singleton _ _
  | cons m rest ih =>
    obtain ⟨name', v'⟩ := m
    obtain ⟨hafter, hrest⟩ := List.pairwise_cons.mp h
    rw [insert]
    split
    · next hlt =>
      refine List.pairwise_cons.mpr ⟨List.forall_mem_cons.mpr ⟨hlt, fun m hm => ?_⟩, h⟩
      exact hlt.trans (hafter m hm)
    · next hge =>
      split
      · next heq =>
        subst heq
        exact List.pairwise_cons.mpr ⟨hafter, hrest⟩
      · next hne =>
        refine List.pairwise_cons.mpr ⟨fun m hm => ?_, ih hrest⟩
        rcases mem_insert hm with rfl | hm
        · exact lt_of_le_of_ne (not_lt.mp hge) (Ne.symm hne)
        · exact hafter m hm

lemma perm_insert {name : String} {members : List (String × Json)}
    (h : name ∉ members.map Prod.fst) (v : Json) :
    (insert name v members).Perm ((name, v) :: members) := by
  induction members with
  | nil => exact .refl _
  | cons m rest ih =>
    obtain ⟨name', v'⟩ := m
    rw [List.map_cons, List.mem_cons, not_or] at h
    rw [insert, if_neg h.1]
    split
    · exact .refl _
    · exact ((ih h.2).cons _).trans (.swap _ _ _)

lemma exists_ofMembers {members : List (String × Json)} (h : (members.map Prod.fst).Nodup) :
    ∃ sorted, ofMembers members = .object sorted ∧ sorted.Perm members ∧
      sorted.Pairwise fun a b => a.1 < b.1 := by
  induction members using List.reverseRecOn with
  | nil => exact ⟨[], rfl, .refl _, .nil⟩
  | append_singleton members m ih =>
    rw [List.map_append, List.nodup_append] at h
    obtain ⟨hnodup, -, hnew⟩ := h
    obtain ⟨sorted, hsorted, hperm, hpairwise⟩ := ih hnodup
    have hname : m.1 ∉ sorted.map Prod.fst := by
      rw [(hperm.map Prod.fst).mem_iff]
      exact fun hm => hnew _ hm _ (List.mem_singleton_self _) rfl
    refine ⟨insert m.1 m.2 sorted, ?_, ?_, pairwise_insert hpairwise m.1 m.2⟩
    · rw [ofMembers, Json.object.injEq] at hsorted
      rw [ofMembers, List.foldl_append, hsorted]
      rfl
    · refine (perm_insert hname m.2).trans ((hperm.cons m).trans ?_)
      exact (List.perm_append_singleton m members).symm

lemma lookup_insert (name : String) (v : Json) (members : List (String × Json)) (other : String) :
    (insert name v members).lookup other =
      if other = name then some v else members.lookup other := by
  induction members with
  | nil => rw [insert, NamedValues.lookup_cons]
  | cons m rest ih =>
    obtain ⟨name', v'⟩ := m
    rw [insert]
    split
    · rw [NamedValues.lookup_cons]
    · split
      · next heq =>
        subst heq
        rw [NamedValues.lookup_cons, NamedValues.lookup_cons]
        split <;> rfl
      · next hne =>
        rw [NamedValues.lookup_cons, ih, NamedValues.lookup_cons]
        by_cases hother : other = name
        · rw [if_pos hother, if_pos hother, if_neg (hother ▸ hne)]
        · rw [if_neg hother, if_neg hother]

lemma lookup_foldl_insert (name : String) (members sorted : List (String × Json)) :
    (members.foldl (fun sorted m => insert m.1 m.2 sorted) sorted).lookup name =
      (members.reverse ++ sorted).lookup name := by
  induction members generalizing sorted with
  | nil => rfl
  | cons m rest ih =>
    rw [List.foldl_cons, ih, List.reverse_cons, List.append_assoc, List.singleton_append,
      List.lookup_append, List.lookup_append, lookup_insert, NamedValues.lookup_cons]

lemma member?_ofMembers (name : String) (members : List (String × Json)) :
    (ofMembers members).member? name =
      ((members.filter fun m => m.1 = name).map Prod.snd).getLast? := by
  rw [ofMembers, member?, lookup_foldl_insert, List.append_nil, NamedValues.lookup_eq_head?,
    List.filter_reverse, List.map_reverse, List.head?_reverse]

/-! Values -/

lemma characters?_map_ofChar (s : List Char) : characters? (s.map Piece.ofChar) = some s := by
  induction s with
  | nil => rfl
  | cons c s ih =>
    rw [List.map_cons, Piece.ofChar]
    split
    · next h =>
      rw [characters?.eq_def]
      dsimp only
      rw [if_pos (by omega), ih, Char.ofNat_toNat, Option.map_some]
    · rw [characters?, ih, Option.map_some]

lemma string?_map_ofChar (s : String) : string? (s.toList.map Piece.ofChar) = some s := by
  rw [string?, characters?_map_ofChar, Option.map_some, String.ofList_toList]

lemma value?_ofInt {n : Int} (hlow : -2 ^ 63 ≤ n) (hhigh : n < 2 ^ 64) :
    (Numeral.ofInt n).value? = some (.int n) := by
  cases n with
  | ofNat n =>
    have hword : n ≤ largestWord := by
      have : (n : Int) < 2 ^ 64 := hhigh
      rw [largestWord, UInt64.size]
      omega
    simp only [Numeral.ofInt, Numeral.value?, decimalValue_decimal, and_self, if_true,
      Bool.false_eq_true, if_false, if_pos hword]
    rfl
  | negSucc n =>
    have hword : 0 < n + 1 ∧ n + 1 ≤ 1 <<< 63 := by omega
    simp only [Numeral.ofInt, Numeral.value?, decimalValue_decimal, and_self, if_true,
      if_pos hword]
    rfl

/-- The text of a value is read as this shape, and the shape has this value wherever it may nest so
deep. -/
structure IsShapeOf (v : Json) (shape : Raw) : Prop where
  reads : Token.Reads v.text shape.tokens
  value : ∀ limit, shape.value? limit = if v.depth ≤ limit then some v else none

lemma isShapeOf_scalar {v : Json} {shape : Raw} (hreads : Token.Reads v.text shape.tokens)
    (hdepth : v.depth = 0) (hvalue : ∀ limit, shape.value? limit = some v) :
    IsShapeOf v shape where
  reads := hreads
  value limit := by rw [hvalue, if_pos (by omega)]

lemma isShapeOf_int {n : Int} (hlow : -2 ^ 63 ≤ n) (hhigh : n < 2 ^ 64) :
    IsShapeOf (.int n) (.number (.ofInt n)) :=
  isShapeOf_scalar (by rw [text]; exact Token.reads_signed n) rfl
    fun limit => by rw [Raw.value?, value?_ofInt hlow hhigh]

lemma isShapeOf_string (s : String) :
    IsShapeOf (.string s) (.string (s.toList.map Piece.ofChar)) :=
  isShapeOf_scalar (by rw [text]; exact Token.reads_quoted s) rfl
    fun limit => by rw [Raw.value?, string?_map_ofChar, Option.map_some]

section

variable {items : List Json} {shapes : List Raw}

lemma reads_items (h : List.Forall₂ IsShapeOf items shapes) :
    List.Forall₂ Token.Reads (itemTexts items) (Raw.itemTokens shapes) := by
  induction h with
  | nil =>
    rw [itemTexts, Raw.itemTokens]
    exact .nil
  | cons h _ ih =>
    rw [itemTexts, Raw.itemTokens]
    exact .cons h.reads ih

lemma items?_eq (h : List.Forall₂ IsShapeOf items shapes) (limit : Nat) :
    Raw.items? limit shapes = if itemsDepth items ≤ limit then some items else none := by
  induction h with
  | nil => rw [Raw.items?, itemsDepth, if_pos (Nat.zero_le limit)]
  | @cons item shape items shapes h _ ih =>
    rw [Raw.items?, h.value, ih, itemsDepth]
    by_cases hitem : item.depth ≤ limit
    · by_cases hitems : itemsDepth items ≤ limit
      · rw [if_pos hitem, if_pos hitems, if_pos (Nat.max_le.mpr ⟨hitem, hitems⟩)]
        rfl
      · rw [if_pos hitem, if_neg hitems, if_neg fun hmax => hitems (Nat.max_le.mp hmax).2]
        rfl
    · rw [if_neg hitem, if_neg fun hmax => hitem (Nat.max_le.mp hmax).1]
      rfl

lemma isShapeOf_array (h : List.Forall₂ IsShapeOf items shapes) :
    IsShapeOf (.array items) (.array shapes) where
  reads := by
    rw [text, Raw.tokens]
    exact Token.reads_array (Token.reads_separated (reads_items h))
  value limit := by
    cases limit with
    | zero => rw [Raw.value?, depth, if_neg (Nat.not_succ_le_zero _)]
    | succ limit =>
      rw [Raw.value?, depth, items?_eq h, apply_ite (Option.map Json.array)]
      simp only [Nat.add_le_add_iff_right]
      rfl

end

section

variable {members : List (String × Json)} {shapes : List (List Piece × Raw)}

structure IsMemberShape (m : String × Json) (shape : List Piece × Raw) : Prop where
  name : shape.1 = m.1.toList.map Piece.ofChar
  value : IsShapeOf m.2 shape.2

lemma reads_members (h : List.Forall₂ IsMemberShape members shapes) :
    List.Forall₂ Token.Reads (memberTexts members) (Raw.memberTokens shapes) := by
  induction h with
  | nil =>
    rw [memberTexts, Raw.memberTokens]
    exact .nil
  | @cons m shape members shapes h _ ih =>
    obtain ⟨name, v⟩ := m
    obtain ⟨_, shape⟩ := shape
    obtain ⟨rfl, hv⟩ := h
    rw [memberTexts, Raw.memberTokens]
    exact .cons (Token.reads_member (Token.reads_quoted name) hv.reads) ih

lemma members?_eq (h : List.Forall₂ IsMemberShape members shapes) (limit : Nat) :
    Raw.members? limit shapes = if membersDepth members ≤ limit then some members else none := by
  induction h with
  | nil => rw [Raw.members?, membersDepth, if_pos (Nat.zero_le limit)]
  | @cons m shape members shapes h _ ih =>
    obtain ⟨name, v⟩ := m
    obtain ⟨_, shape⟩ := shape
    obtain ⟨rfl, hv⟩ := h
    rw [Raw.members?, string?_map_ofChar, hv.value, ih, membersDepth]
    by_cases hv : v.depth ≤ limit
    · by_cases hmembers : membersDepth members ≤ limit
      · rw [if_pos hv, if_pos hmembers, if_pos (Nat.max_le.mpr ⟨hv, hmembers⟩)]
        rfl
      · rw [if_pos hv, if_neg hmembers, if_neg fun hmax => hmembers (Nat.max_le.mp hmax).2]
        rfl
    · rw [if_neg hv, if_neg fun hmax => hv (Nat.max_le.mp hmax).1]
      rfl

lemma isShapeOf_object (hsorted : members.Pairwise fun a b => a.1 < b.1)
    (h : List.Forall₂ IsMemberShape members shapes) :
    IsShapeOf (.object members) (.object shapes) where
  reads := by
    rw [text, Raw.tokens]
    exact Token.reads_object (Token.reads_separated (reads_members h))
  value limit := by
    cases limit with
    | zero => rw [Raw.value?, depth, if_neg (Nat.not_succ_le_zero _)]
    | succ limit =>
      rw [Raw.value?, depth, members?_eq h, apply_ite (Option.map ofMembers), Option.map_some,
        ofMembers_of_sorted hsorted]
      simp only [Nat.add_le_add_iff_right]
      rfl

end

lemma exists_forall₂ {α β : Type} {R : α → β → Prop} {l : List α} (h : ∀ a ∈ l, ∃ b, R a b) :
    ∃ l', List.Forall₂ R l l' := by
  induction l with
  | nil => exact ⟨[], .nil⟩
  | cons a l ih =>
    obtain ⟨⟨b, hb⟩, hl⟩ := List.forall_mem_cons.mp h
    obtain ⟨l', hl'⟩ := ih hl
    exact ⟨b :: l', .cons hb hl'⟩

lemma IsExact.exists_shape {v : Json} (h : v.IsExact) : ∃ shape, IsShapeOf v shape := by
  induction h with
  | null => exact ⟨.null, isShapeOf_scalar (by rw [text]; exact Token.reads_null) rfl fun _ => rfl⟩
  | bool b =>
    refine ⟨.bool b, isShapeOf_scalar ?_ rfl fun _ => rfl⟩
    cases b with
    | true => exact Token.reads_true
    | false => exact Token.reads_false
  | int hlow hhigh => exact ⟨_, isShapeOf_int hlow hhigh⟩
  | string s => exact ⟨_, isShapeOf_string s⟩
  | array _ ih =>
    obtain ⟨shapes, hshapes⟩ := exists_forall₂ ih
    exact ⟨_, isShapeOf_array hshapes⟩
  | object hsorted _ ih =>
    obtain ⟨shapes, hshapes⟩ := exists_forall₂ (R := IsMemberShape) fun m hm => by
      obtain ⟨shape, hshape⟩ := ih m hm
      exact ⟨(m.1.toList.map Piece.ofChar, shape), rfl, hshape⟩
    exact ⟨_, isShapeOf_object hsorted hshapes⟩

lemma IsExact.parse?_render {v : Json} (h : v.IsExact) :
    parse? v.render = if v.depth ≤ depthLimit then some v else none := by
  obtain ⟨shape, hshape⟩ := h.exists_shape
  rw [parse?, render, String.toList_ofList, Raw.parse?, hshape.reads.all?_eq, Option.bind_some,
    Raw.ofTokens?_tokens, Option.bind_some, hshape.value]

lemma IsExact.eq_of_render_eq {v w : Json} (hv : v.IsExact) (hw : w.IsExact)
    (h : v.render = w.render) : v = w := by
  obtain ⟨shape, hshape⟩ := hv.exists_shape
  obtain ⟨shape', hshape'⟩ := hw.exists_shape
  have htokens : shape.tokens = shape'.tokens := by
    rw [← Option.some_inj, ← hshape.reads.all?_eq, ← hshape'.reads.all?_eq, String.ofList_inj.mp h]
  have hsame : shape = shape' := by
    rw [← Option.some_inj, ← Raw.ofTokens?_tokens, htokens, Raw.ofTokens?_tokens]
  -- A limit that lets both of them through: here nesting does not matter.
  have hvalue := hshape.value (max v.depth w.depth)
  rw [hsame, hshape'.value, if_pos (le_max_right _ _), if_pos (le_max_left _ _)] at hvalue
  exact (Option.some.inj hvalue).symm

end TierRelay.Json
