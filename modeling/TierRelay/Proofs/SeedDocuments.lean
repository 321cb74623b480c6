import TierRelay.Proofs.JsonGrammar
import TierRelay.Proofs.Utf8
import TierRelay.Record.Seed

namespace TierRelay.Seed

open Json Text

variable {members : List (List Piece × Raw)} {values items : List Raw} {shape v : Raw}
  {records episodes profiles : List Json} {listed : Option (List Json)} {kind : RecordKind}

def valuesFor (kind : RecordKind) (members : List (List Piece × Raw)) : List Raw :=
  (members.filter fun m => Json.string? m.1 = some kind.name).map Prod.snd

inductive Holds : List Raw → List Json → Prop
  | absent : Holds [] []
  | given {items : List Raw} {records : List Json} : Raw.MeansItems items records →
      Raw.itemsDepth items ≤ depthLimit - 2 → Holds [.array items] records

inductive IsSeed : Raw → List Json → List Json → Prop
  | object {members : List (List Piece × Raw)} {episodes profiles : List Json} :
      (∀ m ∈ members, Json.string? m.1 ≠ none) → Holds (valuesFor .episodes members) episodes →
      Holds (valuesFor .profiles members) profiles → IsSeed (.object members) episodes profiles
  | array {items : List Raw} {episodes profiles : List Json} : items.length ≤ 2 →
      Holds (items.take 1) episodes → Holds (items.drop 1) profiles →
      IsSeed (.array items) episodes profiles

inductive IsMisgiven : Raw → Prop
  | twice {members : List (List Piece × Raw)} {kind : RecordKind} :
      1 < (valuesFor kind members).length → IsMisgiven (.object members)
  | member {members : List (List Piece × Raw)} {kind : RecordKind} {v : Raw} :
      v ∈ valuesFor kind members → (∀ items, v ≠ .array items) → IsMisgiven (.object members)
  | item {items : List Raw} {v : Raw} : v ∈ items.take 2 → (∀ inner, v ≠ .array inner) →
      IsMisgiven (.array items)

lemma list?_eq_some_iff : list? v = some records ↔
    ∃ items, v = .array items ∧ Raw.MeansItems items records ∧
      Raw.itemsDepth items ≤ depthLimit - 2 := by
  constructor
  · intro h
    rw [list?.eq_def] at h
    split at h
    · next items => exact ⟨items, rfl, (Raw.items?_eq_some_iff _ _ items).mp h⟩
    · cases h
  · rintro ⟨items, rfl, h⟩
    exact (Raw.items?_eq_some_iff _ _ items).mpr h

def only? : Option (List Json) → List Raw → Option (List Json)
  | listed, [] => some (listed.getD [])
  | none, v :: values => (list? v).bind fun records => only? (some records) values
  | some _, _ :: _ => none

lemma only?_none_eq_some_iff : only? none values = some records ↔ Holds values records := by
  constructor
  · intro h
    match values with
    | [] =>
      cases h
      exact .absent
    | [v] =>
      obtain ⟨_, hlist, h⟩ := Option.bind_eq_some_iff.mp h
      cases h
      obtain ⟨items, rfl, hmeans, hdepth⟩ := list?_eq_some_iff.mp hlist
      exact .given hmeans hdepth
    | _ :: _ :: _ =>
      obtain ⟨_, _, h⟩ := Option.bind_eq_some_iff.mp h
      cases h
  · intro h
    cases h with
    | absent => rfl
    | given hmeans hdepth =>
      rw [only?, list?_eq_some_iff.mpr ⟨_, rfl, hmeans, hdepth⟩]
      rfl

lemma ofName?_eq_some_iff {name : String} : RecordKind.ofName? name = some kind ↔ name = kind.name := by
  constructor
  · intro h
    rw [RecordKind.ofName?.eq_def] at h
    split at h
    · cases h
      rfl
    · cases h
      rfl
    · cases h
  · rintro rfl
    exact RecordKind.ofName?_name kind

lemma valuesFor_cons {pieces : List Piece} {name : String} (hname : Json.string? pieces = some name)
    (kind : RecordKind) (v : Raw) (members : List (List Piece × Raw)) :
    valuesFor kind ((pieces, v) :: members) =
      if RecordKind.ofName? name = some kind then v :: valuesFor kind members
      else valuesFor kind members := by
  rw [valuesFor, List.filter_cons]
  simp only [hname, Option.some_inj, ofName?_eq_some_iff, decide_eq_true_eq]
  split
  · rw [List.map_cons]
    rfl
  · rfl

lemma ofMembers?_eq_some_iff {seed : Seed} (listed listed' : Option (List Json)) :
    ofMembers? members listed listed' = some seed ↔
      (∀ m ∈ members, Json.string? m.1 ≠ none) ∧
        only? listed (valuesFor .episodes members) = some seed.episodes ∧
        only? listed' (valuesFor .profiles members) = some seed.profiles := by
  -- What the members before have given is carried along in `listed` and `listed'`.
  induction members generalizing listed listed' with
  | nil =>
    obtain ⟨episodes, profiles⟩ := seed
    simp [ofMembers?, valuesFor, only?]
  | cons m members ih =>
    obtain ⟨pieces, v⟩ := m
    rw [ofMembers?, List.forall_mem_cons]
    cases hname : Json.string? pieces with
    | none => simp
    | some name =>
      rw [valuesFor_cons hname, valuesFor_cons hname]
      simp only [Option.bind_eq_bind, Option.bind_some, ne_eq, reduceCtorEq, not_false_eq_true,
        true_and]
      cases hkind : RecordKind.ofName? name with
      | none => exact ih listed listed'
      | some kind =>
        cases kind with
        | episodes =>
          rw [if_pos rfl, if_neg (by simp)]
          cases listed with
          | none =>
            rw [only?]
            cases list? v with
            | none => simp
            | some records => exact ih (some records) listed'
          | some listed => simp [only?]
        | profiles =>
          rw [if_neg (by simp), if_pos rfl]
          cases listed' with
          | none =>
            rw [only?]
            cases list? v with
            | none => simp
            | some records => exact ih listed (some records)
          | some listed' => simp [only?]

lemma holds_singleton_iff : Holds [v] records ↔ list? v = some records := by
  rw [← only?_none_eq_some_iff, only?]
  simp [only?]

lemma ofRaw?_eq_some_iff {seed : Seed} :
    ofRaw? shape = some seed ↔ IsSeed shape seed.episodes seed.profiles := by
  constructor
  · intro h
    rw [ofRaw?.eq_def] at h
    split at h
    · next members =>
      obtain ⟨hnames, hepisodes, hprofiles⟩ := (ofMembers?_eq_some_iff none none).mp h
      exact .object hnames (only?_none_eq_some_iff.mp hepisodes)
        (only?_none_eq_some_iff.mp hprofiles)
    · cases h
      exact .array (by decide) .absent .absent
    · next v =>
      obtain ⟨_, hepisodes, h⟩ := Option.bind_eq_some_iff.mp h
      cases h
      exact .array (by simp) (holds_singleton_iff.mpr hepisodes) .absent
    · next v w =>
      obtain ⟨_, hepisodes, h⟩ := Option.bind_eq_some_iff.mp h
      obtain ⟨_, hprofiles, h⟩ := Option.bind_eq_some_iff.mp h
      cases h
      exact .array (by simp) (holds_singleton_iff.mpr hepisodes)
        (holds_singleton_iff.mpr hprofiles)
    · cases h
  · obtain ⟨episodes, profiles⟩ := seed
    intro h
    cases h with
    | object hnames hepisodes hprofiles =>
      exact (ofMembers?_eq_some_iff none none).mpr ⟨hnames,
        only?_none_eq_some_iff.mpr hepisodes, only?_none_eq_some_iff.mpr hprofiles⟩
    | @array items _ _ hlength hepisodes hprofiles =>
      match items with
      | [] =>
        cases hepisodes
        cases hprofiles
        rfl
      | [v] =>
        cases hprofiles
        rw [ofRaw?, holds_singleton_iff.mp hepisodes]
        rfl
      | [v, w] =>
        rw [ofRaw?, holds_singleton_iff.mp hepisodes, holds_singleton_iff.mp hprofiles]
        rfl
      | _ :: _ :: _ :: _ => simp at hlength

lemma Holds.isList (h : Holds values records) :
    values.length ≤ 1 ∧ ∀ v ∈ values, ∃ items, v = .array items := by
  cases h with
  | absent => simp
  | given _ _ => simp

lemma IsMisgiven.not_isSeed (h : IsMisgiven shape) : ¬ IsSeed shape episodes profiles := by
  intro hseed
  have hkind {members : List (List Piece × Raw)} (hobject : IsSeed (.object members) episodes profiles)
      (kind : RecordKind) : ∃ records, Holds (valuesFor kind members) records := by
    cases hobject with
    | object _ hepisodes hprofiles =>
      cases kind with
      | episodes => exact ⟨_, hepisodes⟩
      | profiles => exact ⟨_, hprofiles⟩
  cases h with
  | @twice members kind htwice =>
    obtain ⟨_, hholds⟩ := hkind hseed kind
    have := hholds.isList.1
    omega
  | @member members kind v hv hno =>
    obtain ⟨_, hholds⟩ := hkind hseed kind
    obtain ⟨items, rfl⟩ := hholds.isList.2 v hv
    exact hno items rfl
  | @item items v hv hno =>
    cases hseed with
    | array hlength hepisodes hprofiles =>
      have hmem : v ∈ items.take 1 ++ items.drop 1 := by
        rw [List.take_append_drop]
        exact (List.take_sublist 2 items).subset hv
      obtain ⟨inner, rfl⟩ : ∃ inner, v = .array inner := by
        rcases List.mem_append.mp hmem with hv | hv
        · exact hepisodes.isList.2 v hv
        · exact hprofiles.isList.2 v hv
      exact hno inner rfl

end TierRelay.Seed

namespace TierRelay.Store

open Json Text Seed

variable {text : String} {shape : Raw}

lemma text_content (text : String) : (File.content (Utf8.encode text.toList)).text = .ok text := by
  rw [File.text, Utf8.decode?_encode]
  exact congrArg Except.ok String.ofList_toList

lemma load_of_seed (h : Written text.toList shape) {seed : Seed} (hseed : ofRaw? shape = some seed) :
    load (.content (Utf8.encode text.toList)) = .ok (ofSeed seed) := by
  have hparsed : Seed.parse? text = some seed := by
    rw [Seed.parse?, h.parse?, Option.bind_some, hseed]
  rw [load, text_content]
  dsimp only
  rw [hparsed]

lemma load_of_none (h : Written text.toList shape) (hnone : ofRaw? shape = none) :
    load (.content (Utf8.encode text.toList)) = .error .malformed := by
  have hparsed : Seed.parse? text = none := by
    rw [Seed.parse?, h.parse?, Option.bind_some, hnone]
  rw [load, text_content]
  dsimp only
  rw [hparsed]

theorem load_depends_only_on_lists (h : Written text.toList shape) :
    let file := File.content (Utf8.encode text.toList)
    (∀ episodes profiles, IsSeed shape episodes profiles →
      let fresh := (empty.extend .episodes episodes).extend .profiles profiles
      ∃ store, load file = .ok store ∧ ∀ kind, store.length kind = fresh.length kind ∧
        ∀ q skip, store.fetch kind q skip = fresh.fetch kind q skip) ∧
    (IsMisgiven shape → load file = .error .malformed) ∧
    ((∀ episodes profiles, ¬ IsSeed shape episodes profiles) → load file = .error .malformed) := by
  intro file
  have hnone (hno : ∀ episodes profiles, ¬ IsSeed shape episodes profiles) :
      load file = .error .malformed := by
    apply load_of_none h
    rw [Option.eq_none_iff_forall_not_mem]
    intro seed hseed
    exact hno _ _ (ofRaw?_eq_some_iff.mp hseed)
  refine ⟨fun episodes profiles hseed => ?_, fun hmisgiven => hnone fun _ _ => hmisgiven.not_isSeed,
    hnone⟩
  have hshape : ofRaw? shape = some ⟨episodes, profiles⟩ := ofRaw?_eq_some_iff.mpr hseed
  exact ⟨ofSeed ⟨episodes, profiles⟩, load_of_seed h hshape, fun kind => ⟨rfl, fun q skip => rfl⟩⟩

theorem load_depends_only_on_lists_of_texts :
    let text := "\x7b\"x\":\x7b\x7d,\"\\u0065pisodes\" : [7]\x7d"
    let shape := Raw.object [([.char 'x'], .object []),
      (.unit 0x65 :: ['p', 'i', 's', 'o', 'd', 'e', 's'].map .char,
        .array [.number { whole := ['7'] }])]
    Written text.toList shape ∧ IsSeed shape [.int 7] [] ∧
      (∃ store, load (.content (Utf8.encode text.toList)) = .ok store ∧
        ∀ kind, store.length kind =
          ((empty.extend .episodes [.int 7]).extend .profiles []).length kind) ∧
      Written "[[],7]".toList (.array [.array [], .number { whole := ['7'] }]) ∧
      load (.content (Utf8.encode "[[],7]".toList)) = .error .malformed := by
  intro text shape
  have hno : ∀ c ∈ ([] : List Char), Token.isSpace c = true := nofun
  have hseven : Written ['7'] (.number { whole := ['7'] }) := by
    have hwhole : Token.IsWhole ['7'] := .digits (by simp) (by simp) (by simp)
    exact .number (.positive hwhole .none .none)
  have hx : Written ['"', 'x', '"'] (.string [.char 'x']) :=
    written_plain (s := ['x']) (by simp)
  have hepisodes : Written ['"', '\\', 'u', '0', '0', '6', '5', 'p', 'i', 's', 'o', 'd', 'e', 's', '"',
      ' '] (.string (.unit 0x65 :: ['p', 'i', 's', 'o', 'd', 'e', 's'].map .char)) := by
    have hunit : IsPiece ['\\', 'u', '0', '0', '6', '5'] (.unit 0x65) :=
      .unit (p := 0) (q := 0) (r := 6) (t := 5) rfl rfl rfl rfl
    have hplain := isPiece_plain (s := ['p', 'i', 's', 'o', 'd', 'e', 's']) (by simp)
    exact .after (c := ' ') rfl (.string (.cons hunit hplain))
  have htext : Written text.toList shape := by
    have hchars : text.toList = ['\x7b', '"', 'x', '"', ':', '\x7b', '\x7d', ',', '"', '\\', 'u', '0',
      '0', '6', '5', 'p', 'i', 's', 'o', 'd', 'e', 's', '"', ' ', ':', ' ', '[', '7', ']', '\x7d'] := by
      cbv
    rw [hchars]
    exact .object hno (.cons hx (.object hno .nil)
      (.cons hepisodes (.before rfl (.array hno (.cons hseven .nil))) .nil))
  have hlists : IsSeed shape [.int 7] [] := by
    refine .object (by decide) ?_ ?_
    · have hmeans : Raw.MeansItems [.number { whole := ['7'] }] [.int 7] :=
        .cons (.number (by cbv)) .nil
      exact .given hmeans (by decide)
    · exact .absent
  have hitems : Written "[[],7]".toList (.array [.array [], .number { whole := ['7'] }]) :=
    .array hno (.cons (.array hno .nil) (.cons hseven .nil))
  have hmisgiven : IsMisgiven (.array [.array [], .number { whole := ['7'] }]) :=
    .item (v := .number { whole := ['7'] }) (by simp) (by simp)
  obtain ⟨store, hstore, hsame⟩ := (load_depends_only_on_lists htext).1 [.int 7] [] hlists
  exact ⟨htext, hlists, ⟨store, hstore, fun kind => (hsame kind).1⟩, hitems,
    (load_depends_only_on_lists hitems).2.1 hmisgiven⟩

end TierRelay.Store
