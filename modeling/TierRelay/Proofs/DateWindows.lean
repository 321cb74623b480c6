import TierRelay.Proofs.DayCount
import TierRelay.Proofs.StoreRuns
import TierRelay.Proofs.WireDate

/-!
Every stored time and every bound is a whole second, so a window that begins one second after
another ends leaves nothing out and shares nothing with it.
-/

namespace TierRelay

namespace Calendar.DateTime

def nextSecond? (t : DateTime) : Option DateTime := do
  let second := t.time.secondOfDay + 1
  if second < 86400 then
    return ⟨t.date, ← Time.of? (second / 3600) (second / 60 % 60) (second % 60) 0⟩
  return ⟨← t.date.next?, Time.midnight⟩

lemma nanos_of_parse? {text : String} {t : DateTime} (h : parse? text = some t) :
    t.time.nanos = 0 := by
  rw [← wholeSecond_of_parse? h]
  rfl

lemma wholeSecond_eq_self {t : DateTime} (h : t.time.nanos = 0) : t.wholeSecond = t := by
  obtain ⟨date, ⟨hour, minute, second, nanos, _⟩⟩ := t
  dsimp only at h
  subst h
  rfl

lemma exists_nextSecond? {t later : DateTime} (h : t < later) (hlater : later.time.nanos = 0) :
    ∃ n, t.nextSecond? = some n ∧ n.time.nanos = 0 ∧ n.instant = t.instant + 1 := by
  by_cases hsecond : t.time.secondOfDay + 1 < 86400
  · have htime : IsTime ((t.time.secondOfDay + 1) / 3600) ((t.time.secondOfDay + 1) / 60 % 60)
        ((t.time.secondOfDay + 1) % 60) 0 := ⟨by omega, by omega, by omega, by omega, by omega⟩
    refine ⟨⟨t.date, _, _, _, 0, htime⟩, ?_, rfl, ?_⟩
    · simp only [nextSecond?, if_pos hsecond, Time.of?, dif_pos htime]
      rfl
    · simp only [instant, Time.secondOfDay] at hsecond ⊢
      omega
  · have hlast : t.date.year < lastYear ∨ t.date.month < 12 ∨ t.date.day < 31 := by
      have hrank : t.rank < later.rank := h
      obtain ⟨hhour, hminute, hsecond', _⟩ := later.time.isTime
      obtain ⟨_, hyear, _, hmonth, _, hday⟩ := later.date.isDay
      have hlength := Date.monthLength_le later.date.year later.date.month
      simp only [rank, hlater] at hrank
      simp only [Time.secondOfDay] at hsecond
      omega
    obtain ⟨date, hdate, hnumber, _⟩ := t.date.exists_next? hlast
    refine ⟨⟨date, Time.midnight⟩, ?_, rfl, ?_⟩
    · simp only [nextSecond?, if_neg hsecond, hdate]
      rfl
    · have := t.time.secondOfDay_lt
      have hmidnight : Time.midnight.secondOfDay = 0 := rfl
      simp only [instant, hnumber, hmidnight]
      omega

end Calendar.DateTime

namespace Store

open Calendar StableSort

lemma filter_eq_append {α : Type} {l : List α} {whole front back : α → Bool}
    (hwhole : ∀ x ∈ l, whole x = (front x || back x))
    (hapart : ∀ x ∈ l, back x = true → front x = false)
    (hordered : l.Pairwise fun x y => back x = true → front y = false) :
    l.filter whole = l.filter front ++ l.filter back := by
  induction l with
  | nil => rfl
  | cons x l ih =>
    have hrest := ih (fun y hy => hwhole y (.tail x hy)) (fun y hy => hapart y (.tail x hy))
      hordered.of_cons
    have hx := hwhole x List.mem_cons_self
    by_cases hback : back x = true
    · -- Nothing behind `x` is in the first part, so that part is empty.
      have hfront : ∀ y ∈ x :: l, front y = false := by
        intro y hy
        rcases List.mem_cons.mp hy with rfl | hy
        · exact hapart y List.mem_cons_self hback
        · exact List.rel_of_pairwise_cons hordered hy hback
      have hempty : (x :: l).filter front = [] := by
        rw [List.filter_eq_nil_iff]
        intro y hy
        rw [hfront y hy]
        exact Bool.false_ne_true
      rw [hempty, List.nil_append]
      apply List.filter_congr
      intro y hy
      rw [hwhole y hy, hfront y hy, Bool.false_or]
    · rw [Bool.not_eq_true] at hback
      rw [hback, Bool.or_false] at hx
      rw [List.filter_cons_of_neg (p := back) (by simp [hback])]
      by_cases hfront : front x = true
      · rw [List.filter_cons_of_pos (hx.trans hfront), List.filter_cons_of_pos hfront, hrest,
          List.cons_append]
      · rw [List.filter_cons_of_neg (by rwa [hx]), List.filter_cons_of_neg hfront, hrest]

variable {changes : List Change} {kind : RecordKind}

lemma exists_text_of_timeOf {record : Json} {t : DateTime} (h : Stored.timeOf record = some t) :
    ∃ text, DateTime.parse? text = some t := by
  rw [Stored.timeOf] at h
  split at h
  · next text _ => exact ⟨text, h⟩
  · cases h

lemma nanos_of_mem_run {r : Stored} (hr : r ∈ (run changes).get kind) {t : DateTime}
    (ht : r.insertedAt = some t) : t.time.nanos = 0 := by
  rw [get_run, List.mem_mergeSort, given, List.mem_map] at hr
  obtain ⟨record, _, rfl⟩ := hr
  obtain ⟨text, htext⟩ := exists_text_of_timeOf ht
  exact DateTime.nanos_of_parse? htext

lemma pairwise_run (changes : List Change) (kind : RecordKind) :
    ((run changes).get kind).Pairwise (Stored.notAfter · ·) := by
  have h := Stored.isTotalPreorder_notAfter
  rw [get_run]
  exact List.pairwise_mergeSort h.trans h.total _

lemma isWithin_iff {first last : DateTime} (hfirst : first.time.nanos = 0)
    (hlast : last.time.nanos = 0) {r : Stored} (hr : r ∈ (run changes).get kind) :
    r.isWithin first last ↔
      ∃ t, r.insertedAt = some t ∧ first.instant ≤ t.instant ∧ t.instant ≤ last.instant := by
  rw [Stored.isWithin]
  cases ht : r.insertedAt with
  | none => simp
  | some t =>
    have hnanos := nanos_of_mem_run hr ht
    simp [DateTime.le_iff_instant_le hfirst hnanos, DateTime.le_iff_instant_le hnanos hlast]

lemma within_eq_append {a m n b : DateTime} (ha : a.time.nanos = 0) (hm : m.time.nanos = 0)
    (hn : n.time.nanos = 0) (hb : b.time.nanos = 0) (ham : a.instant ≤ m.instant)
    (hmb : m.instant < b.instant) (hnext : n.instant = m.instant + 1) :
    (run changes).within kind a b =
      (run changes).within kind a m ++ (run changes).within kind n b := by
  apply filter_eq_append
  · intro r hr
    rw [Bool.eq_iff_iff, Bool.or_eq_true, isWithin_iff ha hb hr, isWithin_iff ha hm hr,
      isWithin_iff hn hb hr]
    constructor
    · rintro ⟨t, ht, hfirst, hlast⟩
      rcases Int.lt_or_le m.instant t.instant with h | h
      · exact .inr ⟨t, ht, by omega, hlast⟩
      · exact .inl ⟨t, ht, hfirst, h⟩
    · rintro (⟨t, ht, hfirst, hlast⟩ | ⟨t, ht, hfirst, hlast⟩)
      · exact ⟨t, ht, hfirst, by omega⟩
      · exact ⟨t, ht, by omega, hlast⟩
  · intro r hr hback
    obtain ⟨t, ht, hfirst, _⟩ := (isWithin_iff hn hb hr).mp hback
    rw [← Bool.not_eq_true, isWithin_iff ha hm hr]
    rintro ⟨u, hu, _, hlast⟩
    rw [ht] at hu
    cases hu
    omega
  · apply (pairwise_run changes kind).imp_of_mem
    intro r r' hr hr' hordered hback
    obtain ⟨t, ht, hfirst, _⟩ := (isWithin_iff hn hb hr).mp hback
    obtain ⟨u, hu, htu⟩ := Stored.notAfter_iff.mp hordered t ht
    rw [DateTime.le_iff_instant_le (nanos_of_mem_run hr ht) (nanos_of_mem_run hr' hu)] at htu
    rw [← Bool.not_eq_true, isWithin_iff ha hm hr']
    rintro ⟨v, hv, _, hlast⟩
    rw [hu] at hv
    cases hv
    omega

/-- What a client reads in two windows, the second of which begins one second after the first ends,
is what it would have read in one. -/
theorem adjacent_windows_tile (changes : List Change) (kind : RecordKind)
    {first middle last : String} {a m b : DateTime} (ha : DateTime.parse? first = some a)
    (hm : DateTime.parse? middle = some m) (hb : DateTime.parse? last = some b) (ham : a ≤ m)
    (hmb : m < b) :
    ∃ n, m.nextSecond? = some n ∧ n.instant = m.instant + 1 ∧
      DateTime.parse? n.canonical = some n ∧
      (run changes).within kind a b =
        (run changes).within kind a m ++ (run changes).within kind n b ∧
      ∀ page pageSize skip skip' skip'',
        ((run changes).fetch kind ⟨page, pageSize, a, b⟩ skip).total =
          ((run changes).fetch kind ⟨page, pageSize, a, m⟩ skip').total +
            ((run changes).fetch kind ⟨page, pageSize, n, b⟩ skip'').total := by
  have ha := DateTime.nanos_of_parse? ha
  have hm := DateTime.nanos_of_parse? hm
  have hb := DateTime.nanos_of_parse? hb
  obtain ⟨n, hnext, hn, hinstant⟩ := DateTime.exists_nextSecond? hmb hb
  have hwithin : (run changes).within kind a b =
      (run changes).within kind a m ++ (run changes).within kind n b :=
    within_eq_append ha hm hn hb ((DateTime.le_iff_instant_le ha hm).mp ham)
      ((DateTime.lt_iff_instant_lt hm hb).mp hmb) hinstant
  refine ⟨n, hnext, hinstant, ?_, hwithin, ?_⟩
  · rw [DateTime.parse?_canonical, DateTime.wholeSecond_eq_self hn]
  · intro page pageSize skip skip' skip''
    simp only [fetch, hwithin, List.length_append]

theorem adjacent_windows_tile_leap_second :
    let record (time : String) : Json := .ofMembers [("recordInsertDatetime", .string time)]
    let changes : List Change := [
      .extend .episodes [record "2024-07-01T02:00:00.25+02:00", record "2024-06-30T23:59:60.5Z"],
      .insert .episodes (record "30/06/2024")]
    let a : DateTime := ⟨⟨2024, 6, 30, by decide⟩, Time.midnight⟩
    let m : DateTime := ⟨⟨2024, 6, 30, by decide⟩, ⟨23, 59, 59, 0, by decide⟩⟩
    let n : DateTime := ⟨⟨2024, 7, 1, by decide⟩, Time.midnight⟩
    m.nextSecond? = some n ∧
      (run changes).within .episodes a n =
        (run changes).within .episodes a m ++ (run changes).within .episodes n n ∧
      (run changes).within .episodes a m =
        [⟨some a, record "30/06/2024"⟩, ⟨some m, record "2024-06-30T23:59:60.5Z"⟩] ∧
      (run changes).within .episodes n n = [⟨some n, record "2024-07-01T02:00:00.25+02:00"⟩] := by
  intro record changes a m n
  have ha : DateTime.parse? "2024-06-30" = some a := by cbv
  have hm : DateTime.parse? "30/06/2024 23:59:60" = some m := by decide +kernel
  have hn : DateTime.parse? "2024-07-01" = some n := by cbv
  have hnext : m.nextSecond? = some n := by cbv
  obtain ⟨n', hnext', _, _, hwithin, _⟩ :=
    adjacent_windows_tile changes .episodes ha hm hn (by decide) (by decide)
  rw [hnext] at hnext'
  cases hnext'
  have hrecord {time : String} {t : DateTime} (h : DateTime.parse? time = some t) :
      Stored.ofRecord (record time) = ⟨some t, record time⟩ :=
    congrArg (Stored.mk · (record time)) h
  have hgiven : given changes .episodes =
      [⟨some n, record "2024-07-01T02:00:00.25+02:00"⟩, ⟨some m, record "2024-06-30T23:59:60.5Z"⟩,
        ⟨some a, record "30/06/2024"⟩] := by
    rw [← hrecord (by decide +kernel), ← hrecord (by decide +kernel), ← hrecord (by decide +kernel)]
    rfl
  refine ⟨hnext, hwithin, ?_, ?_⟩
  all_goals
    rw [within_run, wanted, hgiven]
    subst a m n
    cbv

end Store

end TierRelay
