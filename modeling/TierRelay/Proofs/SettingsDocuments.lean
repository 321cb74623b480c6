import TierRelay.Proofs.JsonGrammar
import TierRelay.Settings.Load

namespace TierRelay.Settings

open Json

variable {full : Members} {kept : String → Bool} {keptIn : String → String → Bool} {v : Json}

/-! What a document gives -/

/-- An object that holds the members that are kept, in any order and among members of any other
names, or an array of the values of the first members where these are the ones that are kept. -/
inductive Gives (full : Members) (kept : String → Bool) : Json → Prop
  | object {named : Members} :
      (∀ m ∈ full, (named.filter fun other => other.1 = m.1) = if kept m.1 then [m] else []) →
      Gives full kept (.ofMembers named)
  | array (n : Nat) : (∀ m ∈ full, kept m.1 = true ↔ m ∈ full.take n) →
      Gives full kept (.array ((full.take n).map Prod.snd))

lemma gives_filter (full : Members) (h : (full.map Prod.fst).Nodup) (kept : String → Bool) :
    Gives full kept (.ofMembers (full.filter fun m => kept m.1)) := by
  refine .object fun m hm => ?_
  rw [List.filter_comm, NamedValues.filter_eq_singleton h hm, List.filter_singleton]
  cases kept m.1 <;> rfl

lemma zip_names_take (full : Members) (n : Nat) :
    (full.map Prod.fst).zip ((full.take n).map Prod.snd) = full.take n := by
  have hnames : full.map Prod.fst = (full.take n).map Prod.fst ++ (full.drop n).map Prod.fst := by
    rw [← List.map_append, List.take_append_drop]
  rw [hnames, ← List.append_nil ((full.take n).map Prod.snd), List.zip_append (by simp),
    List.zip_map', List.map_id', List.zip_nil_right, List.append_nil]

lemma lookup_take (h : (full.map Prod.fst).Nodup) {n : Nat}
    (hkept : ∀ m ∈ full, kept m.1 = true ↔ m ∈ full.take n) {m : String × Json} (hm : m ∈ full) :
    (full.take n).lookup m.1 = if kept m.1 then some m.2 else none := by
  have htake := List.take_sublist n full
  split
  · next hkeep =>
    exact NamedValues.lookup_eq_some_of_mem (h.sublist (htake.map Prod.fst)) ((hkept m hm).mp hkeep)
  · next hdrop =>
    refine List.lookup_eq_none_iff.mpr fun other hother => bne_iff_ne.mpr fun hname => hdrop ?_
    have hsame := List.inj_on_of_nodup_map h hm (htake.subset hother) hname
    exact (hkept m hm).mpr (hsame ▸ hother)

lemma Gives.exists_members (hgives : Gives full kept v) (f : Format) {names : List String}
    (hnames : full.map Prod.fst = names) (h : names.Nodup) :
    ∃ members, members? f names v = some members ∧
      ∀ m ∈ full, members.lookup m.1 = if kept m.1 then some m.2 else none := by
  subst hnames
  cases hgives with
  | @object named hnamed =>
    refine ⟨_, rfl, fun m hm => (member?_ofMembers m.1 named).trans ?_⟩
    rw [hnamed m hm]
    split <;> rfl
  | array n hkept =>
    refine ⟨full.take n, ?_, fun m hm => lookup_take h hkept hm⟩
    rw [members?, if_pos (.inr (by simp)), zip_names_take]

lemma member_eq {α : Type} {members : Members} {name : String} {given : Json} {keep : Bool}
    {read? : Json → Option α} {value : α}
    (h : members.lookup name = if keep then some given else none)
    (hread : keep = true → read? given = some value) (default : α) :
    member members name default read? = some (if keep then value else default) := by
  rw [member, h]
  cases keep with
  | false => rfl
  | true => exact hread rfl

/-! Values -/

lemma text?_string (s : String) : text? (.string s) = some s :=
  rfl

lemma bool?_bool (b : Bool) : bool? (.bool b) = some b :=
  rfl

lemma optionalText?_textOrNull (s : Option String) : optionalText? (textOrNull s) = some s := by
  cases s <;> rfl

lemma role?_name (f : Format) (r : Role) : role? f (.string r.name) = some r := by
  rw [role?, nameIn?, Option.bind_some, Role.ofName?_name]

lemma kind?_name (f : Format) (k : RecordKind) : kind? f (.string k.name) = some k := by
  rw [kind?, nameIn?, Option.bind_some, RecordKind.ofName?_name]

lemma kinds?_names (f : Format) (kinds : List RecordKind) :
    kinds? f (.array (kinds.map fun kind => .string kind.name)) = some kinds := by
  rw [kinds?]
  induction kinds with
  | nil => rfl
  | cons kind kinds ih =>
    rw [List.map_cons, List.mapM_cons, kind?_name, ih]
    rfl

/-! Sections: the members of each, and what is kept of it -/

def Listener.members (l : Listener) : Members :=
  [("bind_address", .string l.bindAddress)]

def Listener.keeping (kept : String → Bool) (l : Listener) : Listener :=
  let default : Listener := {}
  ⟨if kept "bind_address" then l.bindAddress else default.bindAddress⟩

lemma Listener.ofDocument?_eq {l : Listener} (h : Gives l.members kept v) (f : Format) :
    ofDocument? f v = some (l.keeping kept) := by
  obtain ⟨members, hmembers, hlookup⟩ := h.exists_members f (rfl : _ = ["bind_address"]) (by decide)
  simp only [Listener.members, List.forall_mem_cons] at hlookup
  obtain ⟨haddress, -⟩ := hlookup
  rw [ofDocument?, hmembers]
  simp only [Option.bind_eq_bind, Option.bind_some, member_eq haddress fun _ => text?_string _]
  rfl

def Position.members (p : Position) : Members :=
  [("role", .string p.role.name)]

def Position.keeping (kept : String → Bool) (p : Position) : Position :=
  let default : Position := {}
  ⟨if kept "role" then p.role else default.role⟩

lemma Position.ofDocument?_eq {p : Position} (h : Gives p.members kept v) (f : Format) :
    ofDocument? f v = some (p.keeping kept) := by
  obtain ⟨members, hmembers, hlookup⟩ := h.exists_members f (rfl : _ = ["role"]) (by decide)
  simp only [Position.members, List.forall_mem_cons] at hlookup
  obtain ⟨hrole, -⟩ := hlookup
  rw [ofDocument?, hmembers]
  simp only [Option.bind_eq_bind, Option.bind_some, member_eq hrole fun _ => role?_name f _]
  rfl

def urlNames : PerKind String := ⟨"episodes_url", "profiles_url"⟩

def pathNames : PerKind String := ⟨"episodes_path", "profiles_path"⟩

def textMembers (names texts : PerKind String) : Members :=
  [(names.episodes, .string texts.episodes), (names.profiles, .string texts.profiles)]

def keepingTexts (names default : PerKind String) (kept : String → Bool) (texts : PerKind String) :
    PerKind String :=
  ⟨if kept names.episodes then texts.episodes else default.episodes,
    if kept names.profiles then texts.profiles else default.profiles⟩

lemma texts?_eq {names texts : PerKind String} (h : Gives (textMembers names texts) kept v)
    (hnames : names.episodes ≠ names.profiles) (f : Format) (default : PerKind String) :
    (do
      let m ← members? f [names.episodes, names.profiles] v
      return (⟨← member m names.episodes default.episodes text?,
        ← member m names.profiles default.profiles text?⟩ : PerKind String)) =
      some (keepingTexts names default kept texts) := by
  obtain ⟨members, hmembers, hlookup⟩ :=
    h.exists_members f (rfl : _ = [names.episodes, names.profiles]) (by simpa using hnames)
  simp only [textMembers, List.forall_mem_cons] at hlookup
  obtain ⟨hepisodes, hprofiles, -⟩ := hlookup
  rw [hmembers]
  simp only [Option.bind_eq_bind, Option.bind_some, member_eq hepisodes fun _ => text?_string _,
    member_eq hprofiles fun _ => text?_string _]
  rfl

lemma downstreamOf?_eq {urls : PerKind String} (h : Gives (textMembers urlNames urls) kept v)
    (f : Format) (default : PerKind String) :
    downstreamOf? f default v = some (keepingTexts urlNames default kept urls) :=
  texts?_eq h (by decide) f default

lemma routesOf?_eq {paths : PerKind String} (h : Gives (textMembers pathNames paths) kept v)
    (f : Format) (default : PerKind String) :
    routesOf? f default v = some (keepingTexts pathNames default kept paths) :=
  texts?_eq h (by decide) f default

def Storage.members (s : Storage) : Members :=
  [("seed_path", textOrNull s.seedPath),
    ("not_found_on_empty", .array (s.notFoundOnEmpty.map fun kind => .string kind.name))]

def Storage.keeping (kept : String → Bool) (s : Storage) : Storage :=
  let default : Storage := {}
  ⟨if kept "seed_path" then s.seedPath else default.seedPath,
    if kept "not_found_on_empty" then s.notFoundOnEmpty else default.notFoundOnEmpty⟩

lemma Storage.ofDocument?_eq {s : Storage} (h : Gives s.members kept v) (f : Format) :
    ofDocument? f v = some (s.keeping kept) := by
  obtain ⟨members, hmembers, hlookup⟩ :=
    h.exists_members f (rfl : _ = ["seed_path", "not_found_on_empty"]) (by decide)
  simp only [Storage.members, List.forall_mem_cons] at hlookup
  obtain ⟨hseed, hempty, -⟩ := hlookup
  rw [ofDocument?, hmembers]
  simp only [Option.bind_eq_bind, Option.bind_some,
    member_eq hseed fun _ => optionalText?_textOrNull _,
    member_eq hempty fun _ => kinds?_names f _]
  rfl

def Observability.members (o : Observability) : Members :=
  [("log_level", .string o.logLevel), ("metrics_enabled", .bool o.metricsEnabled),
    ("metrics_address", .string o.metricsAddress)]

def Observability.keeping (kept : String → Bool) (o : Observability) : Observability :=
  let default : Observability := {}
  ⟨if kept "log_level" then o.logLevel else default.logLevel,
    if kept "metrics_enabled" then o.metricsEnabled else default.metricsEnabled,
    if kept "metrics_address" then o.metricsAddress else default.metricsAddress⟩

lemma Observability.ofDocument?_eq {o : Observability} (h : Gives o.members kept v) (f : Format) :
    ofDocument? f v = some (o.keeping kept) := by
  obtain ⟨members, hmembers, hlookup⟩ := h.exists_members f
    (rfl : _ = ["log_level", "metrics_enabled", "metrics_address"]) (by decide)
  simp only [Observability.members, List.forall_mem_cons] at hlookup
  obtain ⟨hlevel, henabled, haddress, -⟩ := hlookup
  rw [ofDocument?, hmembers]
  simp only [Option.bind_eq_bind, Option.bind_some, member_eq hlevel fun _ => text?_string _,
    member_eq henabled fun _ => bool?_bool _, member_eq haddress fun _ => text?_string _]
  rfl

/-! The whole -/

variable {s : Settings}

def content (s : Settings) : List (String × Members) :=
  [("listener", s.listener.members), ("tier", s.position.members),
    ("downstream", textMembers urlNames s.downstream), ("routes", textMembers pathNames s.routes),
    ("store", s.storage.members), ("observability", s.observability.members)]

/-- The default stands for a section that is not kept, and in one that is kept for each member that
is not. -/
def keeping (kept : String → Bool) (keptIn : String → String → Bool) (s : Settings) : Settings :=
  let default : Settings := {}
  { listener :=
      if kept "listener" then s.listener.keeping (keptIn "listener") else default.listener
    position := if kept "tier" then s.position.keeping (keptIn "tier") else default.position
    downstream :=
      if kept "downstream" then
        keepingTexts urlNames default.downstream (keptIn "downstream") s.downstream
      else default.downstream
    routes :=
      if kept "routes" then keepingTexts pathNames default.routes (keptIn "routes") s.routes
      else default.routes
    storage := if kept "store" then s.storage.keeping (keptIn "store") else default.storage
    observability :=
      if kept "observability" then s.observability.keeping (keptIn "observability")
      else default.observability }

def IsDocument (s : Settings) (kept : String → Bool) (keptIn : String → String → Bool) (v : Json) :
    Prop :=
  ∃ documents : String × Members → Json,
    (∀ part ∈ s.content, kept part.1 = true → Gives part.2 (keptIn part.1) (documents part)) ∧
    Gives (s.content.map fun part => (part.1, documents part)) kept v

lemma ofDocument?_eq (h : IsDocument s kept keptIn v) (f : Format) :
    ofDocument? f v = some (s.keeping kept keptIn) := by
  obtain ⟨documents, hparts, hgives⟩ := h
  obtain ⟨members, hmembers, hlookup⟩ := hgives.exists_members f (rfl : _ = sections) (by decide)
  simp only [content, List.map_cons, List.map_nil, List.forall_mem_cons] at hparts hlookup
  obtain ⟨hlistener, hposition, hdownstream, hroutes, hstorage, hobservability, -⟩ := hparts
  obtain ⟨atListener, atTier, atDownstream, atRoutes, atStore, atObservability, -⟩ := hlookup
  rw [ofDocument?, hmembers]
  simp only [Option.bind_eq_bind, Option.bind_some,
    member_eq atListener fun hkeep => Listener.ofDocument?_eq (hlistener hkeep) f,
    member_eq atTier fun hkeep => Position.ofDocument?_eq (hposition hkeep) f,
    member_eq atDownstream fun hkeep => downstreamOf?_eq (hdownstream hkeep) f _,
    member_eq atRoutes fun hkeep => routesOf?_eq (hroutes hkeep) f _,
    member_eq atStore fun hkeep => Storage.ofDocument?_eq (hstorage hkeep) f,
    member_eq atObservability fun hkeep => Observability.ofDocument?_eq (hobservability hkeep) f]
  rfl

lemma keeping_all (s : Settings) : s.keeping (fun _ => true) (fun _ _ => true) = s :=
  rfl

def keptContent (s : Settings) (kept : String → Bool) (keptIn : String → String → Bool) :
    List (String × Members) :=
  (s.content.filter fun part => kept part.1).map fun part =>
    (part.1, part.2.filter fun m => keptIn part.1 m.1)

lemma keptContent_all (s : Settings) :
    s.keptContent (fun _ => true) (fun _ _ => true) = s.content := by
  simp [keptContent]

def document (content : List (String × Members)) : Json :=
  .ofMembers (content.map fun part => (part.1, .ofMembers part.2))

lemma toDocument_eq (s : Settings) : s.toDocument = document s.content :=
  rfl

lemma nodup_content (s : Settings) : ∀ part ∈ s.content, (part.2.map Prod.fst).Nodup := by
  simp [content, Listener.members, Position.members, textMembers, urlNames, pathNames,
    Storage.members, Observability.members]

lemma isDocument_keptContent (s : Settings) (kept : String → Bool)
    (keptIn : String → String → Bool) :
    IsDocument s kept keptIn (document (s.keptContent kept keptIn)) := by
  refine ⟨fun part => .ofMembers (part.2.filter fun m => keptIn part.1 m.1),
    fun part hpart _ => gives_filter part.2 (nodup_content s part hpart) (keptIn part.1), ?_⟩
  let documents : Members := s.content.map fun part =>
    (part.1, .ofMembers (part.2.filter fun m => keptIn part.1 m.1))
  have hgives : Gives documents kept (.ofMembers (documents.filter fun m => kept m.1)) :=
    gives_filter documents (by decide : sections.Nodup) kept
  rw [List.filter_map] at hgives
  rw [document, keptContent, List.map_map]
  exact hgives

lemma isDocument_toDocument (s : Settings) :
    IsDocument s (fun _ => true) (fun _ _ => true) s.toDocument := by
  rw [toDocument_eq, ← keptContent_all]
  exact isDocument_keptContent s _ _

/-! Texts -/

def ofJson? (text : String) : Option Settings :=
  (Json.parse? text).bind (ofDocument? .json)

lemma ofJson?_eq {text : String} (h : IsDocument s kept keptIn v)
    (htext : IsText text.toList v depthLimit) : ofJson? text = some (s.keeping kept keptIn) := by
  rw [ofJson?, htext.parse?, Option.bind_some, ofDocument?_eq h]

lemma isText_textOrNull (t : Option String) (most : Nat) :
    IsText (textOrNull t).text (textOrNull t) most := by
  cases t with
  | none => exact isText_null
  | some t => exact isText_string t

lemma isText_names (kinds : List RecordKind) :
    IsText (text (.array (kinds.map fun kind => .string kind.name)))
      (.array (kinds.map fun kind => .string kind.name)) 1 :=
  isText_array (List.forall_mem_map.mpr fun _ _ => isText_string _)

lemma isText_content (s : Settings) : ∀ part ∈ s.content, ∀ m ∈ part.2, IsText m.2.text m.2 1 := by
  simp only [content, Listener.members, Position.members, textMembers, Storage.members,
    Observability.members, List.forall_mem_cons, List.not_mem_nil, false_imp_iff, implies_true,
    and_true]
  exact ⟨isText_string _, isText_string _, ⟨isText_string _, isText_string _⟩,
    ⟨isText_string _, isText_string _⟩, ⟨isText_textOrNull _ 1, isText_names _⟩,
    isText_string _, isText_bool _, isText_string _⟩

def documentText (content : List (String × Members)) : String :=
  String.ofList (objectText (content.map fun part =>
    (part.1, objectText (part.2.map fun m => (m.1, m.2.text)))))

lemma isText_documentText {content : List (String × Members)}
    (h : ∀ part ∈ content, ∀ m ∈ part.2, IsText m.2.text m.2 1) :
    IsText (documentText content).toList (document content) 3 := by
  rw [documentText, String.toList_ofList]
  refine isText_object ?_
  rw [List.forall₂_map_left_iff, List.forall₂_map_right_iff, List.forall₂_same]
  refine fun part hpart => ⟨rfl, isText_object ?_⟩
  rw [List.forall₂_map_left_iff, List.forall₂_same]
  exact fun m hm => ⟨rfl, h part hpart m hm⟩

lemma isText_keptContent (s : Settings) (kept : String → Bool) (keptIn : String → String → Bool) :
    IsText (documentText (s.keptContent kept keptIn)).toList
      (document (s.keptContent kept keptIn)) 3 := by
  refine isText_documentText (List.forall_mem_map.mpr fun part hpart m hm => ?_)
  exact isText_content s part (List.mem_of_mem_filter hpart) m (List.mem_of_mem_filter hm)

lemma isText_render (s : Settings) : IsText s.toDocument.render.toList s.toDocument 3 := by
  rw [render, String.toList_ofList, toDocument_eq]
  refine isText_ofMembers (by decide : sections.Nodup) ?_
  refine List.forall_mem_map.mpr fun part hpart => ?_
  exact isText_ofMembers (nodup_content s part hpart) (isText_content s part hpart)

theorem reloaded_settings_are_kept (s : Settings) :
    (∀ kept keptIn v text, IsDocument s kept keptIn v → IsText text.toList v depthLimit →
      ofJson? text = some (s.keeping kept keptIn)) ∧
    (∀ v text, IsDocument s (fun _ => true) (fun _ _ => true) v →
      IsText text.toList v depthLimit →
      ofJson? text = some s ∧ (ofJson? text).map validate = some s.validate) ∧
    (∀ kept keptIn, ofJson? (documentText (s.keptContent kept keptIn)) =
      some (s.keeping kept keptIn)) ∧
    ofJson? s.toDocument.render = some s := by
  have hlimit : 3 ≤ depthLimit := by decide
  have hwhole {v : Json} {text : String} (h : IsDocument s (fun _ => true) (fun _ _ => true) v)
      (htext : IsText text.toList v depthLimit) : ofJson? text = some s := by
    rw [ofJson?_eq h htext, keeping_all]
  refine ⟨fun kept keptIn v text h htext => ofJson?_eq h htext, fun v text h htext => ?_,
    fun kept keptIn => ?_, ?_⟩
  · rw [hwhole h htext]
    exact ⟨rfl, rfl⟩
  · exact ofJson?_eq (isDocument_keptContent s kept keptIn)
      ((isText_keptContent s kept keptIn).mono hlimit)
  · exact hwhole (isDocument_toDocument s) ((isText_render s).mono hlimit)

theorem reloaded_settings_are_kept_of_text :
    let s : Settings := {
      listener := ⟨"[::1]:80"⟩, position := ⟨.data⟩, downstream := ⟨"http://d/e", "http://d/p"⟩,
      storage := ⟨some "s", [.profiles]⟩, observability := ⟨"debug", true, "?"⟩ }
    let kept (name : String) : Bool := name ∈ ["tier", "store"]
    let keptIn (_ name : String) : Bool := name ∈ ["role", "not_found_on_empty"]
    let store : Members :=
      [("role", .ofMembers []), ("not_found_on_empty", .array [.string "profiles"])]
    let v := Json.ofMembers
      [("store", .ofMembers store), ("x", .null), ("tier", .array [.string "data"])]
    let text := "\x7b\"store\":\x7b\"role\":\x7b\x7d,\"not_found_on_empty\":[\"profiles\"]\x7d," ++
      "\"x\":null,\"tier\":[\"data\"]\x7d"
    IsDocument s kept keptIn v ∧ IsText text.toList v depthLimit ∧
      ofJson? text = some { position := ⟨.data⟩, storage := ⟨none, [.profiles]⟩ } ∧
      IsDocument s (fun _ => true) (fun _ _ => true) s.toDocument ∧
      IsText s.toDocument.render.toList s.toDocument depthLimit ∧
      (ofJson? s.toDocument.render).map validate = some s.validate := by
  intro s kept keptIn store v text
  have hdocument : IsDocument s kept keptIn v := by
    have htier : Gives s.position.members (keptIn "") (.array [.string "data"]) :=
      .array 1 (List.forall_mem_singleton.mpr (iff_of_true rfl List.mem_cons_self))
    have hstore : Gives s.storage.members (keptIn "") (.ofMembers store) :=
      .object (List.forall_mem_cons.mpr ⟨rfl, List.forall_mem_singleton.mpr rfl⟩)
    refine ⟨fun part => if part.1 = "tier" then .array [.string "data"] else .ofMembers store, ?_,
      .object ?_⟩
    · simp only [content, List.forall_mem_cons]
      exact ⟨nofun, fun _ => htier, nofun, nofun, fun _ => hstore, nofun, nofun⟩
    · simp only [content, List.map_cons, List.map_nil, List.forall_mem_cons]
      exact ⟨rfl, rfl, rfl, rfl, rfl, rfl, nofun⟩
  have htext : IsText text.toList v depthLimit := by
    let storeText := objectText
      [("role", objectText []), ("not_found_on_empty", (Json.array [.string "profiles"]).text)]
    have hchars : text.toList = objectText [("store", storeText), ("x", Json.null.text),
        ("tier", (Json.array [.string "data"]).text)] := by
      set_option maxRecDepth 1024 in cbv
    have hstore : IsText storeText (.ofMembers store) 2 :=
      isText_object (.cons ⟨rfl, isText_object .nil⟩ (.cons ⟨rfl, isText_names [.profiles]⟩ .nil))
    have htier : IsText (Json.array [.string "data"]).text (.array [.string "data"]) 2 :=
      isText_array (List.forall_mem_singleton.mpr (isText_string "data"))
    have hparts : IsText text.toList v 3 := by
      rw [hchars]
      exact isText_object (.cons ⟨rfl, hstore⟩ (.cons ⟨rfl, isText_null⟩ (.cons ⟨rfl, htier⟩ .nil)))
    exact hparts.mono (by decide)
  obtain ⟨hkept, hwhole, -⟩ := reloaded_settings_are_kept s
  have hrender : IsText s.toDocument.render.toList s.toDocument depthLimit :=
    (isText_render s).mono (by decide)
  have hserialised := isDocument_toDocument s
  exact ⟨hdocument, htext, hkept kept keptIn v text hdocument htext, hserialised, hrender,
    (hwhole _ _ hserialised hrender).2⟩

end TierRelay.Settings
