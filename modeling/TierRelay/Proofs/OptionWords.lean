import TierRelay.Command.Query
import TierRelay.Proofs.Numeral

namespace TierRelay.Text

lemma isNumeral_signed (n : Int) : IsNumeral (signed n) n := by
  cases n with
  | ofNat n =>
    have h := IsNumeral.plain (decimal_ne_nil n) fun _ => isDigit_of_mem_decimal
    rwa [decimalValue_decimal] at h
  | negSucc n =>
    have h := IsNumeral.minus (decimal_ne_nil (n + 1)) fun _ => isDigit_of_mem_decimal
    rwa [decimalValue_decimal] at h

lemma integerWithin?_signed (n : Int64) : integerWithin? 64 (signed n.toInt) = some n.toInt := by
  have hlow := n.le_toInt
  have hhigh := n.toInt_lt
  rw [integerWithin?, integer?_eq_some_iff.mpr (isNumeral_signed n.toInt), Option.filter_some, if_pos]
  simp only [Bool.and_eq_true, decide_eq_true_eq]
  omega

end TierRelay.Text

namespace TierRelay.Command

open Text

def assigned (option : String × String) : String :=
  "--" ++ option.1 ++ "=" ++ option.2

lemma ofString_assigned {name : String} (hname : '=' ∉ name.toList) (value : String) :
    Word.ofString (assigned (name, value)) = .long name.toList (some value.toList) := by
  have hword : (assigned (name, value)).toList =
      '-' :: '-' :: (name.toList ++ '=' :: value.toList) := by simp [assigned]
  have hkeep : ∀ c ∈ name.toList, decide (c ≠ '=') = true := by
    intro c hc
    rw [decide_eq_true_eq]
    rintro rfl
    exact hname hc
  have hname' : (name.toList ++ '=' :: value.toList).takeWhile (· ≠ '=') = name.toList :=
    before_append hname value.toList
  have hvalue : (name.toList ++ '=' :: value.toList).dropWhile (· ≠ '=') = '=' :: value.toList := by
    rw [List.dropWhile_append_of_pos hkeep]
    simp
  rw [Word.ofString, hword]
  cases htext : name.toList ++ '=' :: value.toList with
  | nil => simp at htext
  | cons c text =>
    rw [htext] at hname' hvalue
    simp only [hname', hvalue]

section

variable {flags : List Flag} {values given : Values} {rest : List String}

def Takes (flags : List Flag) (option : String × String) : Prop :=
  ∃ flag, flags.find? (fun f => f.long = option.1) = some flag ∧ flag.accepts option.2 = true

lemma parse_assigned {name value : String} (hname : '=' ∉ name.toList)
    (htakes : Takes flags (name, value)) (hnew : name ∉ values.map Prod.fst) :
    parse flags values (assigned (name, value) :: rest) =
      parse flags (values ++ [(name, value)]) rest := by
  obtain ⟨flag, hfound, haccepts⟩ := htakes
  have hlong : flag.long = name := by simpa using List.find?_some hfound
  have hput : put values flag value = .ok (values ++ [(name, value)]) := by
    have hany : values.any (·.1 = flag.long) = false := by
      rw [List.any_eq_false, hlong]
      intro option hmem hsame
      exact hnew (List.mem_map.mpr ⟨option, hmem, by simpa using hsame⟩)
    rw [put, hany, haccepts, hlong]
  rw [parse, ofString_assigned hname]
  simp only [asksForHelp, flagOf?, String.ofList_toList, hfound, Option.map_some, hput]
  simp
  rfl

lemma parse_map_assigned
    (hgiven : ∀ option ∈ given, '=' ∉ option.1.toList ∧ Takes flags option)
    (hnames : ((values ++ given).map Prod.fst).Nodup) (rest : List String) :
    parse flags values (given.map assigned ++ rest) = parse flags (values ++ given) rest := by
  -- One option after the other is taken into `values`.
  induction given generalizing values with
  | nil => rw [List.map_nil, List.nil_append, List.append_nil]
  | cons option given ih =>
    obtain ⟨name, value⟩ := option
    rw [List.forall_mem_cons] at hgiven
    obtain ⟨⟨hname, htakes⟩, hgiven⟩ := hgiven
    have hcons : values ++ (name, value) :: given = values ++ [(name, value)] ++ given := by simp
    have hnew : name ∉ values.map Prod.fst := by
      rw [List.map_append, List.map_cons] at hnames
      intro hmem
      exact (List.nodup_append.mp hnames).2.2 name hmem name List.mem_cons_self rfl
    rw [hcons] at hnames ⊢
    rw [List.map_cons, List.cons_append, parse_assigned hname htakes hnew, ih hgiven hnames]

lemma parse_plain {s : String} (h : Word.ofString s = .plain s) :
    parse flags values (s :: rest) = .ok { values, rest := s :: rest } := by
  rw [parse, h]

end

namespace PageArguments

def options (a : PageArguments) : Values :=
  [("start", a.start), ("end", a.finish), ("page", String.ofList (signed a.page))] ++
    (a.pageSize.map fun n => ("page-size", String.ofList (signed n))).toList ++
    (a.path.map fun path => ("path", path)).toList

def words (a : PageArguments) (base : String) (kind : RecordKind) : List String :=
  assigned ("url", base) :: kind.name :: a.options.map assigned

lemma names_options (a : PageArguments) :
    (a.options.map Prod.fst).Sublist (flags.map Flag.long) := by
  have hsize : ((a.pageSize.map fun n => ("page-size", String.ofList (signed n))).toList.map
      Prod.fst).Sublist ["page-size"] := by
    cases a.pageSize with
    | none => exact List.nil_sublist _
    | some n => exact List.Sublist.refl _
  have hpath : ((a.path.map fun path => ("path", path)).toList.map Prod.fst).Sublist ["path"] := by
    cases a.path with
    | none => exact List.nil_sublist _
    | some path => exact List.Sublist.refl _
  rw [options, List.map_append, List.map_append]
  exact ((List.Sublist.refl ["start", "end", "page"]).append hsize).append hpath

lemma lookup_options (a : PageArguments) : a.options.lookup "start" = some a.start ∧
    a.options.lookup "end" = some a.finish ∧
    a.options.lookup "page" = some (String.ofList (signed a.page)) ∧
    a.options.lookup "page-size" = a.pageSize.map (fun n => String.ofList (signed n)) ∧
    a.options.lookup "path" = a.path := by
  obtain ⟨start, finish, page, pageSize, path⟩ := a
  cases pageSize with
  | none =>
    cases path with
    | none => simp [options, List.lookup]
    | some path => simp [options, List.lookup]
  | some n =>
    cases path with
    | none => simp [options, List.lookup]
    | some path => simp [options, List.lookup]

structure Fits (a : PageArguments) : Prop where
  page : ∃ n : Int64, n.toInt = a.page
  pageSize : ∀ size, a.pageSize = some size → ∃ n : Int64, n.toInt = size

variable {a : PageArguments}

lemma wordOf?_signed (n : Int64) : wordOf? (String.ofList (signed n.toInt)) = some n.toInt := by
  rw [wordOf?, String.toList_ofList, integerWithin?_signed]

lemma ofValues_options (ha : a.Fits) : ofValues a.options = .ok a := by
  obtain ⟨hstart, hfinish, hpage, hsize, hpath⟩ := a.lookup_options
  have hword : (a.options.lookup "page").bind wordOf? = some a.page := by
    obtain ⟨n, hn⟩ := ha.page
    rw [hpage, Option.bind_some, ← hn, wordOf?_signed]
  have hwords : (a.options.lookup "page-size").bind wordOf? = a.pageSize := by
    rw [hsize]
    cases hgiven : a.pageSize with
    | none => rfl
    | some size =>
      obtain ⟨n, rfl⟩ := ha.pageSize size hgiven
      rw [Option.map_some, Option.bind_some, wordOf?_signed]
  rw [ofValues]
  simp only [hword, hwords, hstart, hfinish, hpath]
  rfl

lemma takes_of_mem_options (ha : a.Fits) : ∀ option ∈ a.options, Takes flags option := by
  have hword (n : Int64) : (wordOf? (String.ofList (signed n.toInt))).isSome = true := by
    rw [wordOf?_signed, Option.isSome_some]
  obtain ⟨page, hpage⟩ := ha.page
  simp only [options, List.forall_mem_append, List.forall_mem_cons, Option.mem_toList,
    Option.map_eq_some_iff]
  refine ⟨⟨⟨⟨_, rfl, rfl⟩, ⟨_, rfl, rfl⟩, ⟨_, rfl, ?_⟩, List.forall_mem_nil _⟩, ?_⟩, ?_⟩
  · rw [← hpage]
    exact hword page
  · rintro _ ⟨size, hgiven, rfl⟩
    obtain ⟨n, rfl⟩ := ha.pageSize size hgiven
    exact ⟨_, rfl, hword n⟩
  · rintro _ ⟨path, -, rfl⟩
    exact ⟨_, rfl, rfl⟩

lemma parse_options (ha : a.Fits) :
    Command.parse flags [] (a.options.map assigned) = .ok { values := a.options } := by
  have hnames := a.names_options
  have hoptions : ∀ option ∈ a.options, '=' ∉ option.1.toList ∧ Takes flags option := by
    intro option hmem
    have hwritten : ∀ name ∈ flags.map Flag.long, '=' ∉ name.toList := by decide
    exact ⟨hwritten option.1 (hnames.subset (List.mem_map_of_mem hmem)),
      takes_of_mem_options ha option hmem⟩
  have hnodup : (([] ++ a.options : Values).map Prod.fst).Nodup := hnames.nodup (by decide)
  have hparse := parse_map_assigned hoptions hnodup []
  rwa [List.append_nil] at hparse

end PageArguments

lemma QueryArguments.parse_words {a : PageArguments} (ha : a.Fits) (base : String)
    (kind : RecordKind) : parse (a.words base kind) = .ok ⟨base, .page kind a⟩ := by
  have hname : Word.ofString kind.name = .plain kind.name ∧
      RecordKind.ofName? kind.name = some kind := by
    cases kind with
    | episodes => exact ⟨rfl, rfl⟩
    | profiles => exact ⟨rfl, rfl⟩
  have hurl : '=' ∉ "url".toList := by decide
  rw [parse, PageArguments.words,
    parse_assigned hurl ⟨_, rfl, rfl⟩ List.not_mem_nil, parse_plain hname.1]
  have hquestion : questionOf kind.name (a.options.map assigned) = .ok (.page kind a) := by
    simp only [questionOf, hname.2, PageArguments.parse_options ha]
    change (do return Question.page kind (← PageArguments.ofValues a.options)) = _
    rw [PageArguments.ofValues_options ha]
    rfl
  change (do return (⟨base, ← questionOf kind.name (a.options.map assigned)⟩ : QueryArguments)) = _
  rw [hquestion]
  rfl

end TierRelay.Command
