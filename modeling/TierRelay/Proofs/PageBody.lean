import TierRelay.Proofs.JsonRoundTrip
import TierRelay.Proofs.PageAnswers
import TierRelay.Proofs.PageArithmetic
import TierRelay.Proofs.Utf8

/-!
A body is an object of six members in the order of their names. The last member that the page gives
is named for the kind, and no kind has the name of one of the other five.
-/

namespace TierRelay

open Http Text

lemma Http.Header.ofText_injective {s t : String} (h : Header.ofText s = Header.ofText t) :
    s = t := by
  have hdecode := congrArg Utf8.decode? h
  rw [ofText, ofText, Utf8.decode?_encode, Utf8.decode?_encode] at hdecode
  exact String.toList_inj.mp (Option.some.inj hdecode)

namespace Json

def ofBytes? (bytes : Bytes) : Option Json :=
  (Utf8.decode? bytes).bind fun s => parse? (String.ofList s)

lemma ofBytes?_ofText (s : String) : ofBytes? (Header.ofText s) = parse? s := by
  rw [ofBytes?, Header.ofText, Utf8.decode?_encode, Option.bind_some, String.ofList_toList]

lemma isExact_ofNat {n : Nat} (h : n < 2 ^ 64) : (ofNat n).IsExact :=
  .int (by omega) (by omega)

lemma ofNat_injective {m n : Nat} (h : ofNat m = ofNat n) : m = n :=
  Int.ofNat.inj (Json.int.inj h)

lemma eq_of_perm {members others : List (String × Json)} (h : members.Perm others)
    (hnames : members.map Prod.fst = others.map Prod.fst) (hnodup : (others.map Prod.fst).Nodup) :
    members = others := by
  refine List.ext_getElem h.length_eq fun i hi hi' => ?_
  have hname : members[i].1 = others[i].1 := by
    rw [← List.getElem_map Prod.fst (h := by rwa [List.length_map]),
      ← List.getElem_map Prod.fst (h := by rwa [List.length_map])]
    simp only [hnames]
  exact List.inj_on_of_nodup_map hnodup (h.mem_iff.mp (List.getElem_mem hi)) (List.getElem_mem hi')
    hname

end Json

namespace RecordPage

structure IsPlain (p : RecordPage) : Prop where
  pageSize : p.pageSize ≠ 0
  next : p.skip.toNat + p.pageSize.toNat < 2 ^ 64
  total : p.total < 2 ^ 64
  items : ∀ item ∈ p.items, item.IsExact

def members (p : RecordPage) (pages : Nat) (more : Bool) : List (String × Json) :=
  [("page", .ofNat p.page.toNat), ("pageSize", .ofNat p.pageSize.toNat),
    ("totalResults", .ofNat p.total), ("totalPages", .ofNat pages), ("hasMoreData", .bool more),
    (p.kind.name, .array p.items)]

variable {p p' : RecordPage} {pages pages' : Nat} {more more' : Bool}

lemma nodup_members (p : RecordPage) (pages : Nat) (more : Bool) :
    ((p.members pages more).map Prod.fst).Nodup := by
  change ["page", "pageSize", "totalResults", "totalPages", "hasMoreData", p.kind.name].Nodup
  cases p.kind with
  | episodes => decide
  | profiles => decide

lemma name_mem_members_iff (p : RecordPage) (pages : Nat) (more : Bool) (kind : RecordKind) :
    kind.name ∈ (p.members pages more).map Prod.fst ↔ kind = p.kind := by
  change kind.name ∈ ["page", "pageSize", "totalResults", "totalPages", "hasMoreData", p.kind.name] ↔ _
  cases kind <;> cases p.kind <;> decide

lemma forall_mem_members {motive : Json → Prop} :
    (∀ m ∈ p.members pages more, motive m.2) ↔ motive (.ofNat p.page.toNat) ∧
      motive (.ofNat p.pageSize.toNat) ∧ motive (.ofNat p.total) ∧ motive (.ofNat pages) ∧
      motive (.bool more) ∧ motive (.array p.items) := by
  simp only [members, List.forall_mem_cons, List.not_mem_nil, false_imp_iff, implies_true, and_true]

lemma IsPlain.isExact_members (h : p.IsPlain) (hpages : pages ≤ p.total) :
    ∀ m ∈ p.members pages more, m.2.IsExact := by
  have hword (n : UInt32) : n.toNat < 2 ^ 64 := n.toNat_lt.trans (by decide)
  exact forall_mem_members.mpr ⟨Json.isExact_ofNat (hword _), Json.isExact_ofNat (hword _),
    Json.isExact_ofNat h.total, Json.isExact_ofNat (hpages.trans_lt h.total), .bool more,
    .array h.items⟩

lemma depth_le_iff {sorted : List (String × Json)} (h : sorted.Perm (p.members pages more))
    (most : Nat) : (Json.object sorted).depth ≤ most + 2 ↔
      ∀ item ∈ p.items, item.depth + 2 ≤ most + 2 := by
  have hmembers : (∀ m ∈ sorted, m.2.depth ≤ most + 1) ↔
      (Json.array p.items).depth ≤ most + 1 := by
    simp only [h.mem_iff]
    rw [forall_mem_members (motive := fun v => v.depth ≤ most + 1)]
    simp only [Json.ofNat, Json.depth, Nat.zero_le, true_and]
  rw [Json.depth, Nat.add_le_add_iff_right (n := 1), Json.membersDepth_le_iff, hmembers, Json.depth,
    Nat.add_le_add_iff_right, Json.itemsDepth_le_iff]
  simp only [Nat.add_le_add_iff_right]

lemma eq_of_members_eq (h : p.members pages more = p'.members pages' more') :
    p.items = p'.items ∧ p.page = p'.page ∧ p.pageSize = p'.pageSize ∧ p.total = p'.total ∧
      pages = pages' ∧ more = more' := by
  simp only [members, List.cons.injEq, Prod.mk.injEq, true_and, Json.bool.injEq, Json.array.injEq,
    and_true] at h
  obtain ⟨hpage, hsize, htotal, hpages, hmore, -, hitems⟩ := h
  exact ⟨hitems, UInt32.toNat_inj.mp (Json.ofNat_injective hpage),
    UInt32.toNat_inj.mp (Json.ofNat_injective hsize), Json.ofNat_injective htotal,
    Json.ofNat_injective hpages, hmore⟩

lemma eq_of_perm_members (h : (p.members pages more).Perm (p'.members pages' more')) :
    p.kind = p'.kind ∧ p.members pages more = p'.members pages' more' := by
  have hkind : p.kind = p'.kind := by
    rw [← name_mem_members_iff p' pages' more', ← (h.map Prod.fst).mem_iff, name_mem_members_iff]
  refine ⟨hkind, Json.eq_of_perm h ?_ (nodup_members p' pages' more')⟩
  change ["page", "pageSize", "totalResults", "totalPages", "hasMoreData", p.kind.name] = _
  rw [hkind]
  rfl

lemma member?_eq_none {sorted : List (String × Json)} (h : sorted.Perm (p.members pages more))
    {kind : RecordKind} (hkind : kind ≠ p.kind) : (Json.object sorted).member? kind.name = none := by
  rw [Json.member?, List.lookup_eq_none_iff]
  intro m hm
  rw [bne_iff_ne]
  intro hname
  refine hkind ((name_mem_members_iff p pages more kind).mp ?_)
  rw [hname]
  exact List.mem_map_of_mem (h.mem_iff.mp hm)

lemma IsPlain.exists_sorted (h : p.IsPlain) : ∃ sorted : List (String × Json),
    p.body = .ok (.ok (Json.object sorted).render) ∧ (Json.object sorted).IsExact ∧
      sorted.Perm (p.members (pageCount p.total p.pageSize.toNat)
        (decide (p.skip.toNat + p.pageSize.toNat < p.total))) := by
  have hsize := one_le_of_ne_zero h.pageSize
  obtain ⟨sorted, hsorted, hperm, hpairwise⟩ := Json.exists_ofMembers
    (nodup_members p (pageCount p.total p.pageSize.toNat)
      (decide (p.skip.toNat + p.pageSize.toNat < p.total)))
  refine ⟨sorted, ?_, .object hpairwise fun m hm => ?_, hperm⟩
  · rw [body_eq hsize h.next, ← hsorted]
    rfl
  · exact h.isExact_members (pageCount_le hsize p.total) m (hperm.mem_iff.mp hm)

theorem body_decodes_to_page {p : RecordPage} (h : p.IsPlain) :
    ∃ text pages more sorted, p.body = .ok (.ok text) ∧ p.totalPages = .ok pages ∧
      p.hasMoreData = .ok more ∧
      Json.ofBytes? (Header.ofText text) =
        (if ∀ item ∈ p.items, item.depth + 2 ≤ Json.depthLimit then some (.object sorted)
          else none) ∧
      sorted.Perm [("page", .ofNat p.page.toNat), ("pageSize", .ofNat p.pageSize.toNat),
        ("totalResults", .ofNat p.total), ("totalPages", .ofNat pages), ("hasMoreData", .bool more),
        (p.kind.name, .array p.items)] ∧
      (∀ kind ≠ p.kind, (Json.object sorted).member? kind.name = none) ∧
      ∀ (p' : RecordPage) (text' : String), p'.IsPlain → p'.body = .ok (.ok text') →
        Header.ofText text' = Header.ofText text →
        p'.kind = p.kind ∧ p'.items = p.items ∧ p'.page = p.page ∧ p'.pageSize = p.pageSize ∧
          p'.total = p.total ∧ p'.totalPages = .ok pages ∧ p'.hasMoreData = .ok more := by
  obtain ⟨sorted, hbody, hexact, hperm⟩ := h.exists_sorted
  refine ⟨_, _, _, sorted, hbody, totalPages_eq (one_le_of_ne_zero h.pageSize),
    hasMoreData_eq h.next, ?_, hperm, ?_, ?_⟩
  · rw [Json.ofBytes?_ofText, hexact.parse?_render]
    refine if_congr ?_ rfl rfl
    exact depth_le_iff hperm 125
  · exact fun kind hkind => member?_eq_none hperm hkind
  · intro p' text' h' hbody' hbytes
    obtain ⟨sorted', hbody'', hexact', hperm'⟩ := h'.exists_sorted
    obtain rfl := Except.ok.inj (Except.ok.inj (hbody''.symm.trans hbody'))
    obtain rfl := Json.object.inj (hexact'.eq_of_render_eq hexact (Header.ofText_injective hbytes))
    obtain ⟨hkind, hmembers⟩ := eq_of_perm_members (hperm'.symm.trans hperm)
    obtain ⟨hitems, hpage, hsize, htotal, hpages, hmore⟩ := eq_of_members_eq hmembers
    refine ⟨hkind, hitems, hpage, hsize, htotal, ?_, ?_⟩
    · rw [totalPages_eq (one_le_of_ne_zero h'.pageSize), hpages]
    · rw [hasMoreData_eq h'.next, hmore]

theorem body_decodes_to_page_escaped :
    let item (s : String) : Json :=
      .object [("", .array [.int (-2 ^ 63), .int (2 ^ 64 - 1)]), ("\"\\", .string s)]
    let p : RecordPage := ⟨.profiles, [item "\x00é𝄞", .null], 4294967295, 4294967295,
      18446744069414584320, 18446744073709551615⟩
    let p' : RecordPage := { p with items := [item "\\u0000é𝄞", .null] }
    p.IsPlain ∧ p'.IsPlain ∧ ∃ text text' sorted, p.body = .ok (.ok text) ∧
      p'.body = .ok (.ok text') ∧
      Json.ofBytes? (Header.ofText text) = some (.object sorted) ∧
      ("profiles", .array p.items) ∈ sorted ∧ ("hasMoreData", .bool false) ∈ sorted ∧
      (Json.object sorted).member? "episodes" = none ∧
      Header.ofText text' ≠ Header.ofText text := by
  intro item p p'
  have hitem (s : String) : (item s).IsExact := by
    have hnames : "" < "\"\\" := by decide
    refine .object (List.pairwise_pair.mpr hnames) (List.forall_mem_cons.mpr ⟨?_,
      List.forall_mem_singleton.mpr (.string s)⟩)
    exact .array (List.forall_mem_cons.mpr ⟨.int (by decide) (by decide),
      List.forall_mem_singleton.mpr (.int (by decide) (by decide))⟩)
  have hitems (s : String) : ∀ v ∈ [item s, .null], v.IsExact :=
    List.forall_mem_cons.mpr ⟨hitem s, List.forall_mem_singleton.mpr .null⟩
  have hp : p.IsPlain := ⟨by decide, by decide, by decide, hitems _⟩
  have hp' : p'.IsPlain := ⟨by decide, by decide, by decide, hitems _⟩
  obtain ⟨text, pages, more, sorted, hbody, -, hmore, hread, hperm, hother, hinjective⟩ :=
    body_decodes_to_page hp
  obtain ⟨text', _, _, _, hbody', -⟩ := body_decodes_to_page hp'
  have hnesting : ∀ v ∈ p.items, v.depth + 2 ≤ Json.depthLimit := by
    decide
  rw [if_pos hnesting] at hread
  have hlast : p.hasMoreData = .ok false := by
    rw [hasMoreData_eq hp.next]
    exact congrArg Except.ok (by decide)
  obtain rfl := Except.ok.inj (hlast.symm.trans hmore)
  refine ⟨hp, hp', text, text', sorted, hbody, hbody', hread, hperm.mem_iff.mpr ?_,
    hperm.mem_iff.mpr ?_, hother .episodes (by decide), fun hbytes => ?_⟩
  · exact List.mem_of_getElem? (i := 5) rfl
  · exact List.mem_of_getElem? (i := 4) rfl
  · have hsame := (hinjective p' text' hp' hbody' hbytes).2.1
    simp [p', p, item] at hsame

end RecordPage

end TierRelay
