import Mathlib
import TierRelay.Shutdown

/-!
A subscriber receives what it would receive if it were alone: the signals given since it came, in
full or counted as lost, and only then that there is nothing or nothing any more.
-/

namespace TierRelay.Shutdown

variable {s : Shutdown} {i : Nat} {x : Step} {xs ys before after : List Step}

def Delivery.signals : Delivery → Nat
  | .signal => 1
  | .lagged lost => lost
  | .empty => 0
  | .closed => 0

def log (s : Shutdown) (xs : List Step) : List (Step × Reply) :=
  xs.zip (s.run xs).2

def since (i : Nat) (xs : List Step) : List (Step × Reply) :=
  (log {} xs).dropWhile fun e => e.2 ≠ .subscribed i

def delivery? (i : Nat) (e : Step × Reply) : Option Delivery :=
  match e.2 with
  | .received d => if e.1 = .receive i then some d else none
  | _ => none

def deliveries (i : Nat) (l : List (Step × Reply)) : List Delivery :=
  l.filterMap (delivery? i)

def triggered (l : List (Step × Reply)) : Nat :=
  l.countP fun e => e.2 = .triggered

def accounted (i : Nat) (l : List (Step × Reply)) : Nat :=
  ((deliveries i l).map Delivery.signals).sum

inductive Concern
  | trigger
  | receive
  | drop
  deriving DecidableEq

def concern? (i : Nat) : Step → Option Concern
  | .subscribe => none
  | .unsubscribe _ => none
  | .trigger => some .trigger
  | .receive j => if j = i then some .receive else none
  | .drop => some .drop

def concerns (i : Nat) (l : List (Step × Reply)) : List Concern :=
  l.filterMap fun e => concern? i e.1

structure Lone where
  pending : Nat := 0
  dropped : Bool := false

namespace Lone

def delivery (l : Lone) : Delivery :=
  match l.pending with
  | 0 => if l.dropped then .closed else .empty
  | 1 => .signal
  | lost + 2 => .lagged (lost + 1)

def next (l : Lone) : Concern → Lone
  | .trigger => if l.dropped then l else { l with pending := l.pending + 1 }
  | .receive => { l with pending := l.pending - l.delivery.signals }
  | .drop => { l with dropped := true }

def heard (l : Lone) : List Concern → List Delivery
  | [] => []
  | c :: rest => (if c = .receive then [l.delivery] else []) ++ (l.next c).heard rest

lemma signals_delivery_le (l : Lone) : l.delivery.signals ≤ l.pending := by
  obtain ⟨pending, dropped⟩ := l
  match pending with
  | 0 => cases dropped <;> exact Nat.le_refl 0
  | 1 => exact Nat.le_refl 1
  | lost + 2 => exact Nat.le_succ (lost + 1)

lemma delivery_eq_iff (l : Lone) :
    (l.delivery = .signal ∨ ∃ lost, l.delivery = .lagged lost) ↔ 0 < l.pending := by
  obtain ⟨pending, dropped⟩ := l
  match pending with
  | 0 => cases dropped <;> simp [delivery]
  | 1 => simp [delivery]
  | lost + 2 => simp [delivery]

lemma delivery_ne_empty_iff (l : Lone) :
    l.delivery ≠ .empty ↔ 0 < l.pending ∨ l.dropped = true := by
  obtain ⟨pending, dropped⟩ := l
  match pending with
  | 0 => cases dropped <;> simp [delivery]
  | 1 => simp [delivery]
  | lost + 2 => simp [delivery]

lemma delivery_of_not_pending {l : Lone} (h : l.pending = 0) :
    l.delivery = if l.dropped then .closed else .empty := by
  rw [delivery, h]

end Lone

/-- The channel is to a subscriber what a channel of its own would be. -/
structure IsTo (s : Shutdown) (i : Nat) (l : Lone) : Prop where
  place : ∃ place, s.place? i = some place ∧ place + l.pending = s.given
  dropped : s.dropped = l.dropped

lemma place?_eq_some {place : Nat} :
    s.place? i = some place ↔ s.places[i]? = some (some place) := by
  rw [place?, Option.join_eq_some_iff]

lemma lt_of_place? {place : Nat} (h : s.place? i = some place) : i < s.places.length := by
  obtain ⟨hlt, _⟩ := List.getElem?_eq_some_iff.mp (place?_eq_some.mp h)
  exact hlt

lemma place?_set_of_ne {j : Nat} (h : j ≠ i) (p : Option Nat) :
    place? { s with places := s.places.set j p } i = s.place? i := by
  rw [place?, place?, List.getElem?_set_ne h]

lemma deliver_eq {l : Lone} {place : Nat} (hd : s.dropped = l.dropped)
    (hp : place + l.pending = s.given) :
    s.deliver place = (l.delivery, place + l.delivery.signals) := by
  obtain ⟨pending, dropped⟩ := l
  change place + pending = s.given at hp
  subst hd
  have hpending : s.given - place = pending := by omega
  simp only [deliver, Lone.delivery, hpending, capacity]
  match pending with
  | 0 => cases s.dropped <;> rfl
  | 1 => rfl
  | lost + 2 =>
    have : s.given - 1 = place + (lost + 1) := by omega
    simp [this, Delivery.signals]

lemma place?_trigger (s : Shutdown) (i : Nat) : s.trigger.place? i = s.place? i := by
  rw [trigger]
  split <;> rfl

lemma given_trigger {place : Nat} (h : s.place? i = some place) :
    s.trigger.given = s.given + 1 := by
  have hany : s.places.any Option.isSome = true :=
    List.any_eq_true.mpr ⟨_, List.mem_of_getElem? (place?_eq_some.mp h), rfl⟩
  rw [trigger, if_pos hany]

lemma dropped_trigger (s : Shutdown) : s.trigger.dropped = s.dropped := by
  rw [trigger]
  split <;> rfl

inductive Stepped (s : Shutdown) : Step → Shutdown → Reply → Prop
  | subscribed : s.dropped = false → Stepped s .subscribe
      { s with places := s.places ++ [some s.given] } (.subscribed s.places.length)
  | unsubscribed {j : Nat} :
      Stepped s (.unsubscribe j) { s with places := s.places.set j none } .unsubscribed
  | triggered : s.dropped = false → Stepped s .trigger s.trigger .triggered
  | received {j place : Nat} : s.place? j = some place → Stepped s (.receive j)
      { s with places := s.places.set j (some (s.deliver place).2) }
      (.received (s.deliver place).1)
  | absent {j : Nat} : s.place? j = none → Stepped s (.receive j) s .noSuchSubscriber
  | dropped : Stepped s .drop { s with dropped := true } .dropped
  | gone {x : Step} : s.dropped = true → x = .subscribe ∨ x = .trigger → Stepped s x s .gone

lemma stepped (s : Shutdown) (x : Step) : s.Stepped x (s.step x).1 (s.step x).2 := by
  cases x with
  | subscribe =>
    rw [step]
    split
    · next hd => exact .gone hd (.inl rfl)
    · next hd => exact .subscribed (Bool.not_eq_true _ ▸ hd)
  | unsubscribe j => exact .unsubscribed
  | trigger =>
    rw [step]
    split
    · next hd => exact .gone hd (.inr rfl)
    · next hd => exact .triggered (Bool.not_eq_true _ ▸ hd)
  | receive j =>
    rw [step]
    cases h : s.place? j with
    | none => exact .absent h
    | some place => exact .received h
  | drop => exact .dropped

variable {s' : Shutdown} {r : Reply} {l : Lone}

lemma IsTo.stepped (h : s.IsTo i l) (hs : s.Stepped x s' r) (hx : x ≠ .unsubscribe i) :
    s'.IsTo i ((concern? i x).elim l l.next) ∧
      delivery? i (x, r) = if concern? i x = some .receive then some l.delivery else none := by
  obtain ⟨⟨place, hplace, hpending⟩, hdropped⟩ := h
  cases hs with
  | subscribed hd =>
    refine ⟨⟨⟨place, ?_, hpending⟩, hdropped⟩, rfl⟩
    rw [place?, List.getElem?_append_left (lt_of_place? hplace)]
    exact hplace
  | @unsubscribed j =>
    have hne : j ≠ i := fun he => hx (he ▸ rfl)
    exact ⟨⟨⟨place, (place?_set_of_ne hne none).trans hplace, hpending⟩, hdropped⟩, rfl⟩
  | triggered hd =>
    have hnext : l.next .trigger = { l with pending := l.pending + 1 } := by
      rw [Lone.next, ← hdropped, hd]
      rfl
    refine ⟨?_, rfl⟩
    rw [concern?, Option.elim_some, hnext]
    refine ⟨⟨place, (place?_trigger s i).trans hplace, ?_⟩, (dropped_trigger s).trans hdropped⟩
    rw [given_trigger hplace, ← hpending, Nat.add_assoc]
  | @received j p hp =>
    by_cases hj : j = i
    · subst hj
      obtain rfl := Option.some.inj (hplace.symm.trans hp)
      have hle := l.signals_delivery_le
      simp only [deliver_eq hdropped hpending, concern?, if_pos, Option.elim_some]
      refine ⟨⟨⟨place + l.delivery.signals, place?_eq_some.mpr ?_, ?_⟩, hdropped⟩, ?_⟩
      · exact List.getElem?_set_self (lt_of_place? hplace)
      · change place + l.delivery.signals + (l.pending - l.delivery.signals) = s.given
        omega
      · simp [delivery?]
    · simp only [concern?, if_neg hj, Option.elim_none]
      refine ⟨⟨⟨place, (place?_set_of_ne hj _).trans hplace, hpending⟩, hdropped⟩, ?_⟩
      simp [delivery?, hj]
  | @absent j hp =>
    have hj : j ≠ i := by
      rintro rfl
      rw [hplace] at hp
      cases hp
    simp only [concern?, if_neg hj, Option.elim_none]
    exact ⟨⟨⟨place, hplace, hpending⟩, hdropped⟩, rfl⟩
  | dropped => exact ⟨⟨⟨place, hplace, hpending⟩, rfl⟩, rfl⟩
  | gone hd hx =>
    rcases hx with rfl | rfl
    · exact ⟨⟨⟨place, hplace, hpending⟩, hdropped⟩, rfl⟩
    · simp only [concern?, Option.elim_some, Lone.next, ← hdropped, hd, if_pos]
      exact ⟨⟨⟨place, hplace, hpending⟩, hdropped⟩, rfl⟩

lemma Stepped.eq_triggered_iff (hs : s.Stepped x s' r) (i : Nat) :
    r = .triggered ↔ concern? i x = some .trigger ∧ s.dropped = false := by
  cases hs with
  | triggered hd => simp [concern?, hd]
  | @received j | @absent j => by_cases hj : j = i <;> simp [concern?, hj]
  | gone hd => simp [hd]
  | subscribed | unsubscribed | dropped => simp [concern?]

-- A signal is pending from the step that gives it to the one that accounts for it.
lemma IsTo.pending_stepped (h : s.IsTo i l) (hs : s.Stepped x s' r) (hx : x ≠ .unsubscribe i) :
    l.pending + triggered [(x, r)] =
      ((concern? i x).elim l l.next).pending + accounted i [(x, r)] := by
  obtain ⟨_, hreply⟩ := h.stepped hs hx
  have htriggered : triggered [(x, r)] =
      if concern? i x = some .trigger ∧ l.dropped = false then 1 else 0 := by
    rw [triggered, List.countP_singleton]
    simp only [decide_eq_true_eq, hs.eq_triggered_iff i, h.dropped]
  rw [htriggered, accounted, deliveries, List.filterMap_cons, hreply]
  cases concern? i x with
  | none => simp
  | some c =>
    cases c with
    | trigger => cases hd : l.dropped <;> simp [Lone.next, hd]
    | receive =>
      have := l.signals_delivery_le
      simp [Lone.next]
      omega
    | drop => simp [Lone.next]

lemma log_cons (s : Shutdown) (x : Step) (xs : List Step) :
    log s (x :: xs) = (x, (s.step x).2) :: log (s.step x).1 xs := rfl

lemma run_append (s : Shutdown) (xs ys : List Step) :
    (s.run (xs ++ ys)).1 = ((s.run xs).1.run ys).1 := by
  induction xs generalizing s with
  | nil => rfl
  | cons x xs ih => exact ih (s.step x).1

lemma log_append (s : Shutdown) (xs ys : List Step) :
    log s (xs ++ ys) = log s xs ++ log (s.run xs).1 ys := by
  induction xs generalizing s with
  | nil => rfl
  | cons x xs ih => rw [List.cons_append, log_cons, ih, log_cons, List.cons_append]; rfl

lemma IsTo.run (h : s.IsTo i l) (hx : .unsubscribe i ∉ xs) :
    ∃ l', (s.run xs).1.IsTo i l' ∧
      deliveries i (log s xs) = l.heard (concerns i (log s xs)) ∧
      l.pending + triggered (log s xs) = l'.pending + accounted i (log s xs) := by
  induction xs generalizing s l with
  | nil => exact ⟨l, h, rfl, rfl⟩
  | cons x xs ih =>
    rw [List.mem_cons, not_or] at hx
    obtain ⟨hstep, hreply⟩ := h.stepped (s.stepped x) (Ne.symm hx.1)
    have hpending := h.pending_stepped (s.stepped x) (Ne.symm hx.1)
    obtain ⟨l', hl', hheard, hcount⟩ := ih hstep hx.2
    refine ⟨l', hl', ?_, ?_⟩
    · rw [log_cons, deliveries, concerns, List.filterMap_cons, List.filterMap_cons, hreply]
      rw [deliveries, concerns] at hheard
      cases hc : concern? i x with
      | none => simpa [hc] using hheard
      | some c =>
        rw [hc] at hheard
        cases c <;> simpa [Lone.heard] using hheard
    · have htriggered : triggered (log s (x :: xs)) =
          triggered [(x, (s.step x).2)] + triggered (log (s.step x).1 xs) := by
        rw [log_cons, triggered, triggered, triggered, ← List.countP_append, List.singleton_append]
      have haccounted : accounted i (log s (x :: xs)) =
          accounted i [(x, (s.step x).2)] + accounted i (log (s.step x).1 xs) := by
        rw [log_cons, accounted, accounted, accounted, deliveries, deliveries, deliveries,
          ← List.singleton_append, List.filterMap_append, List.map_append, List.sum_append]
      omega

lemma Stepped.dropped_eq (hs : s.Stepped x s' r) :
    s'.dropped = (s.dropped || decide (x = .drop)) := by
  cases hs with
  | triggered => simp [dropped_trigger]
  | gone hd => simp [hd]
  | subscribed | unsubscribed | received | absent | dropped => simp

lemma dropped_run (s : Shutdown) (xs : List Step) :
    (s.run xs).1.dropped = (s.dropped || decide (.drop ∈ xs)) := by
  induction xs generalizing s with
  | nil => simp [Shutdown.run]
  | cons x xs ih =>
    have hrun : (s.run (x :: xs)).1 = ((s.step x).1.run xs).1 := rfl
    simp only [hrun, ih, (s.stepped x).dropped_eq, List.mem_cons, Bool.decide_or, Bool.or_assoc,
      eq_comm]

lemma Stepped.length_places_le (hs : s.Stepped x s' r) : s.places.length ≤ s'.places.length := by
  cases hs with
  | subscribed | unsubscribed | received => simp
  | triggered =>
    rw [trigger]
    split <;> exact Nat.le_refl _
  | absent | dropped | gone => exact Nat.le_refl _

lemma length_places_run (s : Shutdown) (xs : List Step) :
    s.places.length ≤ (s.run xs).1.places.length := by
  induction xs generalizing s with
  | nil => exact Nat.le_refl _
  | cons x xs ih => exact (s.stepped x).length_places_le.trans (ih (s.step x).1)

lemma Stepped.lt_length {j : Nat} (hs : s.Stepped x s' (.subscribed j)) : j < s'.places.length := by
  cases hs with
  | subscribed => simp

lemma lt_length_of_mem_log {e : Step × Reply} {j : Nat} (he : e ∈ log s xs)
    (h : e.2 = .subscribed j) : j < (s.run xs).1.places.length := by
  induction xs generalizing s with
  | nil => cases he
  | cons x xs ih =>
    rw [log_cons, List.mem_cons] at he
    rcases he with rfl | he
    · exact (h ▸ s.stepped x).lt_length.trans_le (length_places_run (s.step x).1 xs)
    · exact ih he

lemma Stepped.isSome_place? (hs : s.Stepped x s' r) (h : (s'.place? i).isSome = true) :
    (s.place? i).isSome = true ∧ x ≠ .unsubscribe i ∨
      x = .subscribe ∧ s.dropped = false ∧ i = s.places.length := by
  cases hs with
  | subscribed hd =>
    rw [place?, List.getElem?_append] at h
    split at h
    · exact .inl ⟨h, nofun⟩
    · have hi : i - s.places.length = 0 := by
        by_contra hne
        rw [List.getElem?_eq_none (by simp; omega)] at h
        cases h
      exact .inr ⟨rfl, hd, by omega⟩
  | @unsubscribed j =>
    have hj : j ≠ i := by
      rintro rfl
      rw [place?, List.getElem?_set_self'] at h
      cases hplace : s.places[j]? <;> simp [hplace] at h
    rw [place?_set_of_ne hj] at h
    exact .inl ⟨h, fun he => hj (Step.unsubscribe.inj he)⟩
  | triggered => exact .inl ⟨place?_trigger s i ▸ h, nofun⟩
  | @received j place hp =>
    refine .inl ⟨?_, nofun⟩
    by_cases hj : j = i
    · rw [← hj, hp]
      rfl
    · rw [place?_set_of_ne hj] at h
      exact h
  | absent | dropped => exact .inl ⟨h, nofun⟩
  | gone _ hx => exact .inl ⟨h, by rcases hx with rfl | rfl <;> exact nofun⟩

lemma exists_subscribed (h : ((run {} xs).1.place? i).isSome = true) :
    ∃ before after, xs = before ++ .subscribe :: after ∧ (run {} before).1.places.length = i ∧
      (run {} before).1.dropped = false ∧ .unsubscribe i ∉ after := by
  -- From the back: the last step leaves the subscriber there, or it is the one that made it.
  induction xs using List.reverseRecOn with
  | nil => cases h
  | append_singleton xs x ih =>
    have hrun : (run {} (xs ++ [x])).1 = ((run {} xs).1.step x).1 := run_append {} xs [x]
    rw [hrun] at h
    rcases (stepped _ x).isSome_place? h with ⟨hlive, hx⟩ | ⟨rfl, hd, rfl⟩
    · obtain ⟨before, after, rfl, hlength, hd, hstays⟩ := ih hlive
      refine ⟨before, after ++ [x], by simp, hlength, hd, ?_⟩
      simpa using ⟨hstays, Ne.symm hx⟩
    · exact ⟨xs, [], rfl, rfl, hd, List.not_mem_nil⟩

lemma since_append (hd : (run {} before).1.dropped = false) (after : List Step) :
    since (run {} before).1.places.length (before ++ .subscribe :: after) =
      (.subscribe, .subscribed (run {} before).1.places.length) ::
        log ((run {} before).1.step .subscribe).1 after := by
  have hreply : ((run {} before).1.step .subscribe).2 =
      .subscribed (run {} before).1.places.length := by
    simp [Shutdown.step, hd]
  rw [since, log_append, log_cons, hreply, List.dropWhile_append_of_pos, List.dropWhile_cons_of_neg]
  · simp
  · intro e he
    rw [decide_eq_true_eq]
    intro hsubscribed
    exact absurd (lt_length_of_mem_log he hsubscribed) (Nat.lt_irrefl _)

lemma isTo_subscribed (hd : s.dropped = false) :
    (s.step .subscribe).1.IsTo s.places.length {} := by
  have hstep : (s.step .subscribe).1 = { s with places := s.places ++ [some s.given] } := by
    simp [Shutdown.step, hd]
  rw [hstep]
  exact ⟨⟨s.given, place?_eq_some.mpr List.getElem?_concat_length, rfl⟩, hd⟩

lemma exists_lone (h : ((run {} xs).1.place? i).isSome = true) :
    ∃ l : Lone, (run {} xs).1.IsTo i l ∧ l.dropped = decide (.drop ∈ xs) ∧
      deliveries i (since i xs) = Lone.heard {} (concerns i (since i xs)) ∧
      triggered (since i xs) = l.pending + accounted i (since i xs) := by
  -- A subscriber begins with nothing pending, and `IsTo.run` accounts for all that follows.
  obtain ⟨before, after, rfl, rfl, hd, hstays⟩ := exists_subscribed h
  obtain ⟨l, hl, hheard, hcount⟩ := (isTo_subscribed hd).run hstays
  have hrun : (run {} (before ++ .subscribe :: after)).1 =
      (((run {} before).1.step .subscribe).1.run after).1 := run_append {} before _
  have hdropped : (run {} (before ++ .subscribe :: after)).1.dropped =
      decide (.drop ∈ before ++ .subscribe :: after) := (dropped_run {} _).trans (Bool.false_or _)
  rw [since_append hd after]
  refine ⟨l, hrun ▸ hl, ?_, hheard, ?_⟩
  · rw [← hdropped, hrun, hl.dropped]
  · rw [Nat.zero_add] at hcount
    exact hcount

lemma accounted_eq_zero (h : .receive i ∉ xs) : accounted i (since i xs) = 0 := by
  have hnone : deliveries i (since i xs) = [] := by
    rw [deliveries, List.filterMap_eq_nil_iff]
    intro e he
    have hlog : e ∈ log {} xs := (List.dropWhile_sublist _).subset he
    have hne : e.1 ≠ .receive i := by
      intro hreceive
      exact h (hreceive ▸ (List.of_mem_zip hlog).1)
    rw [delivery?]
    split
    · exact if_neg hne
    · rfl
  rw [accounted, hnone]
  rfl

theorem no_signal_lost (h : ((run {} xs).1.place? i).isSome = true) :
    accounted i (since i xs) ≤ triggered (since i xs) ∧
    (∃ d, ((run {} xs).1.step (.receive i)).2 = .received d ∧
      ((d = .signal ∨ ∃ lost, d = .lagged lost) ↔
        accounted i (since i xs) < triggered (since i xs)) ∧
      (accounted i (since i xs) = triggered (since i xs) →
        d = if .drop ∈ xs then .closed else .empty)) ∧
    (∀ ys j, ((run {} ys).1.place? j).isSome = true →
      concerns j (since j ys) = concerns i (since i xs) →
      deliveries j (since j ys) = deliveries i (since i xs)) ∧
    ∀ place, (run {} xs).1.place? i = some place →
      ((run {} xs).1.releases place = true ↔
        accounted i (since i xs) < triggered (since i xs) ∨ .drop ∈ xs) ∧
      (.receive i ∉ xs → ((run {} xs).1.releases place = true ↔
        0 < triggered (since i xs) ∨ .drop ∈ xs)) := by
  obtain ⟨l, hl, hdropped, hheard, hcount⟩ := exists_lone h
  obtain ⟨place, hplace, hpending⟩ := hl.place
  have hdeliver := deliver_eq hl.dropped hpending
  have hpositive : 0 < l.pending ↔ accounted i (since i xs) < triggered (since i xs) := by omega
  refine ⟨by omega, ⟨l.delivery, ?_, ?_, ?_⟩, ?_, ?_⟩
  · simp only [step, hplace, hdeliver]
  · rw [l.delivery_eq_iff, hpositive]
  · intro heq
    rw [Lone.delivery_of_not_pending (by omega), hdropped]
    simp only [decide_eq_true_eq]
  · intro ys j hj hsame
    obtain ⟨_, _, _, hheard', _⟩ := exists_lone hj
    rw [hheard', hsame, hheard]
  · intro place' hplace'
    obtain rfl := Option.some.inj (hplace.symm.trans hplace')
    have hreleases : (run {} xs).1.releases place = true ↔
        accounted i (since i xs) < triggered (since i xs) ∨ .drop ∈ xs := by
      rw [releases, hdeliver, decide_eq_true_eq, l.delivery_ne_empty_iff, hpositive, hdropped,
        decide_eq_true_eq]
    refine ⟨hreleases, ?_⟩
    intro hreceive
    rw [hreleases, accounted_eq_zero hreceive]

theorem no_signal_lost_before_drop :
    let xs : List Step :=
      [.trigger, .subscribe, .subscribe, .trigger, .trigger, .unsubscribe 0, .trigger, .drop]
    triggered (since 1 xs) = 3 ∧
      (∃ d, ((run {} xs).1.step (.receive 1)).2 = .received d ∧
        (d = .signal ∨ ∃ lost, d = .lagged lost)) ∧
      (∃ d, ((run {} (xs ++ [.receive 1, .receive 1])).1.step (.receive 1)).2 = .received d ∧
        d = .closed) ∧
      ∀ place, (run {} xs).1.place? 1 = some place → (run {} xs).1.releases place = true := by
  intro xs
  have hlive : ((run {} xs).1.place? 1).isSome = true := by decide
  have hlater : ((run {} (xs ++ [.receive 1, .receive 1])).1.place? 1).isSome = true := by decide
  obtain ⟨_, ⟨d, hd, hsignal, _⟩, _, hreleases⟩ := no_signal_lost hlive
  obtain ⟨_, ⟨d', hd', _, hnone⟩, _⟩ := no_signal_lost hlater
  refine ⟨by decide, ⟨d, hd, hsignal.mpr (by decide)⟩, ⟨d', hd', hnone (by decide)⟩, ?_⟩
  intro place hplace
  exact (hreleases place hplace).1.mpr (.inr (by decide))

end TierRelay.Shutdown
