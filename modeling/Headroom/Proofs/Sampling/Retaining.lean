import Mathlib.Tactic.Lemma
import Headroom.Sampling.History

/-!
# What a history retains

A history forgets in two places. Each push drops old entries for good, one by one from the front.
Each window is read from an entry that is looked up by halving. `History.retains` shows that both
come down to a filter by time, as long as no push is dated before an earlier one: the entries are
the pushed snapshots within the retention, and a window within the retention reads what it would
read had nothing been forgotten.
-/

namespace Headroom

/-! ## Statements -/

/-- A call on a history. -/
inductive HistoryCall (α : Type) where
  | push (s : α)
  | sample (window : Option Duration) (now : Instant)

/-- The snapshots that calls push, in order. -/
def pushed {α : Type} (calls : List (HistoryCall α)) : List α :=
  calls.filterMap fun
    | .push s => some s
    | .sample .. => none

section

variable {α : Type} [Snapshot α]

/-- A snapshot was taken within a span up to `now`, or after it. -/
def isWithin (now : Instant) (span : Duration) (s : α) : Bool := now ≤ takenAt s + span

/-- No snapshot is dated before an earlier one. -/
def Timely (l : List α) : Prop := l.Pairwise fun s t => takenAt s ≤ takenAt t

/-- The time of the last snapshot. -/
def newest (l : List α) : Instant := l.getLast?.elim 0 takenAt

namespace History

/-- The history after a call, with the snapshots that the call gets. -/
def serve (h : History α) : HistoryCall α → History α × List α
  | .push s => (h.push s, [])
  | .sample window now => (h, h.sample window now)

/-- The history after some calls. -/
def serveAll (h : History α) (calls : List (HistoryCall α)) : History α :=
  calls.foldl (fun h call => (h.serve call).1) h

/-- A history retains the snapshots pushed so far up to an age. -/
structure Retains (retention : Duration) (all : List α) (h : History α) : Prop where
  /-- The entries are the snapshots within the retention up to the last one, in their order. -/
  entries : h.entries = all.filter (isWithin (newest all) retention)
  last : h.last? = all.getLast?
  /-- Without a window, everything kept is read, and nothing changes. -/
  whole : ∀ now, h.serve (.sample none now) = (h, h.entries)
  /-- A window reads the entries within it. They are the latest ones, and nothing changes. -/
  window : ∀ w now, h.serve (.sample (some w) now) = (h, h.entries.filter (isWithin now w)) ∧
    h.sample (some w) now <:+ h.entries
  /-- What was forgotten is missing from no window within the retention. -/
  transparent : ∀ w now, w ≤ retention → newest all ≤ now →
    h.sample (some w) now = all.filter (isWithin now w)
  /-- A retention that reaches back to the clock's zero forgets nothing. -/
  forgetless : newest all ≤ retention → h.entries = all
  /-- A window that reaches back to the clock's zero reads everything kept. -/
  boundless : ∀ w now, now ≤ w → h.sample (some w) now = h.entries

end History

/-! ## Times -/

/-- What is older than a span is what is not within it. -/
lemma isOlder_eq (now : Instant) (span : Duration) (s : α) :
    History.isOlder now span s = !isWithin now span s := by
  rw [History.isOlder, isWithin, ← decide_not]
  exact decide_eq_decide.mpr Nat.not_le.symm

/-- What is taken later than something within a span is within it too. -/
lemma isWithin_of_le {s t : α} {now : Instant} {span : Duration} (le : takenAt s ≤ takenAt t)
    (within : isWithin now span s = true) : isWithin now span t = true := by
  rw [isWithin, decide_eq_true_eq] at within ⊢
  exact Nat.le_trans within (Nat.add_le_add_right le span)

/-- Everything is within a span that reaches back to zero. -/
lemma isWithin_of_covers {s : α} {now : Instant} {span : Duration} (le : now ≤ span) :
    isWithin now span s = true := by
  rw [isWithin, decide_eq_true_eq]
  exact Nat.le_trans le (Nat.le_add_left _ _)

/-- A later and shorter span lets nothing pass that the earlier one stops. -/
lemma filter_isWithin {now later : Instant} {span w : Duration} (le : now ≤ later)
    (short : w ≤ span) (l : List α) :
    (l.filter (isWithin now span)).filter (isWithin later w) = l.filter (isWithin later w) := by
  rw [List.filter_filter]
  apply List.filter_congr
  intro s _
  cases within : isWithin later w s with
  | false => rfl
  | true =>
    rw [Bool.true_and, isWithin, decide_eq_true_eq]
    rw [isWithin, decide_eq_true_eq] at within
    exact Nat.le_trans (Nat.le_trans le within) (Nat.add_le_add_left short _)

/-- The last snapshot is the newest. -/
@[simp]
lemma newest_concat (l : List α) (s : α) : newest (l ++ [s]) = takenAt s := by
  rw [newest, List.getLast?_concat]
  rfl

/-- A timely snapshot is no older than those before it. -/
lemma Timely.newest_le {l : List α} {s : α} (timely : Timely (l ++ [s])) :
    newest l ≤ takenAt s := by
  rw [newest]
  cases e : l.getLast? with
  | none => exact Nat.zero_le _
  | some t =>
    exact (List.pairwise_append.mp timely).2.2 t (List.mem_of_getLast? e) s List.mem_cons_self

namespace History

/-! ## Forgetting -/

/-- Where the entries are in order, the old ones are all at the front. -/
lemma since_eq_filter {l : List α} (timely : Timely l) (now : Instant) (span : Duration) :
    since l now span = l.filter (isWithin now span) := by
  induction l with
  | nil => rfl
  | cons s l ih =>
    obtain ⟨le, timely1⟩ := List.pairwise_cons.mp timely
    rw [since, List.dropWhile_cons, isOlder_eq]
    cases within : isWithin now span s with
    | false =>
      rw [List.filter_cons_of_neg (ne_true_of_eq_false within)]
      exact ih timely1
    | true =>
      refine (List.filter_eq_self.mpr ?_).symm
      exact List.forall_mem_cons.mpr
        ⟨within, fun t mem => isWithin_of_le (le t mem) within⟩

/-! ## Looking up -/

/-- Halving finds the place up to which a test holds, if it fails from one place on. -/
lemma border_spec {test : Nat → Bool} (falls : ∀ i j, i ≤ j → test j = true → test i = true)
    (low size : Nat) :
    (∀ i, low ≤ i → i < border test low size → test i = true) ∧
      ∀ i, border test low size ≤ i → i < low + size → test i = false := by
  induction low, size using border.induct test with
  | case1 low =>
    rw [border, if_pos rfl]
    refine ⟨?_, ?_⟩
    · intro i le lt
      exact absurd lt (Nat.not_lt_of_le le)
    · intro i le lt
      exact absurd lt (Nat.not_lt_of_le le)
  | case2 low size some half holds ih =>
    rw [border, if_neg some]
    dsimp only
    rw [if_pos holds]
    refine ⟨?_, ?_⟩
    · intro i _ lt
      by_cases past : low + half + 1 ≤ i
      · exact ih.1 i past lt
      · exact falls i (low + half) (by omega) holds
    · intro i le lt
      exact ih.2 i le (by omega)
  | case3 low size some half fails ih =>
    rw [border, if_neg some]
    dsimp only
    rw [if_neg fails]
    refine ⟨ih.1, ?_⟩
    intro i le lt
    by_cases before : i < low + half
    · exact ih.2 i le before
    · cases holds : test i with
      | false => rfl
      | true => exact absurd (falls (low + half) i (Nat.not_lt.mp before) holds) fails

/-- Where the entries are in order, one before an old one is old. -/
lemma isOlderAt_falls {h : History α} (timely : Timely h.entries) (now : Instant)
    (span : Duration) (i j : Nat) (le : i ≤ j) (old : h.isOlderAt now span j = true) :
    h.isOlderAt now span i = true := by
  rw [isOlderAt, Option.any_eq_true] at old ⊢
  obtain ⟨t, e, old1⟩ := old
  obtain ⟨lt, e1⟩ := List.getElem?_eq_some_iff.mp e
  have lt1 : i < h.entries.length := Nat.lt_of_le_of_lt le lt
  refine ⟨h.entries[i], List.getElem?_eq_getElem lt1, ?_⟩
  have ordered : takenAt h.entries[i] ≤ takenAt t := by
    rw [← e1]
    cases Nat.eq_or_lt_of_le le with
    | inl same => subst same; exact Nat.le_refl _
    | inr before => exact List.pairwise_iff_getElem.mp timely i j lt1 lt before
  rw [isOlder, decide_eq_true_eq] at old1 ⊢
  exact Nat.lt_of_le_of_lt (Nat.add_le_add_right ordered span) old1

/-- The test of a place asks whether its entry is within the span. -/
lemma isOlderAt_eq {h : History α} {i : Nat} (lt : i < h.entries.length) (now : Instant)
    (span : Duration) : h.isOlderAt now span i = !isWithin now span h.entries[i] := by
  rw [isOlderAt, List.getElem?_eq_getElem lt, Option.any_some, isOlder_eq]

/-- Where the entries are in order, a window reads those that are within it. -/
lemma sample_eq_filter {h : History α} (timely : Timely h.entries) (w : Duration)
    (now : Instant) : h.sample (some w) now = h.entries.filter (isWithin now w) := by
  obtain ⟨front, back⟩ := border_spec (isOlderAt_falls timely now w) 0 h.entries.length
  rw [sample]
  generalize border (h.isOlderAt now w) 0 h.entries.length = b at front back ⊢
  have old : (h.entries.take b).filter (isWithin now w) = [] := by
    rw [List.filter_eq_nil_iff]
    intro s mem
    obtain ⟨i, lt, e⟩ := List.mem_take_iff_getElem.mp mem
    obtain ⟨lt1, lt2⟩ := Nat.lt_min.mp lt
    have old1 := front i (Nat.zero_le _) lt1
    rw [isOlderAt_eq lt2, e, Bool.not_eq_true'] at old1
    exact ne_true_of_eq_false old1
  have recent : (h.entries.drop b).filter (isWithin now w) = h.entries.drop b := by
    rw [List.filter_eq_self]
    intro s mem
    obtain ⟨i, lt, e⟩ := List.mem_drop_iff_getElem.mp mem
    have recent1 := back (b + i) (Nat.le_add_right _ _) (by omega)
    rw [isOlderAt_eq (by omega), e, Bool.not_eq_false'] at recent1
    exact recent1
  have both := congrArg (List.filter (isWithin now w)) (List.take_append_drop b h.entries)
  rw [List.filter_append, old, recent] at both
  exact both

/-! ## Along calls -/

/-- The history has its retention, and its entries are the snapshots within it. -/
structure Holds (retention : Duration) (all : List α) (h : History α) : Prop where
  same : h.retention = retention
  entries : h.entries = all.filter (isWithin (newest all) retention)

namespace Holds

variable {retention : Duration} {all : List α} {h : History α}

/-- The entries are in order of time. -/
lemma timely (ho : h.Holds retention all) (timely : Timely all) : Timely h.entries := by
  rw [Timely, ho.entries]
  exact List.Pairwise.sublist List.filter_sublist timely

/-- A push holds what is left of the snapshots so far. -/
lemma push {s : α} (ho : h.Holds retention all) (timely : Timely (all ++ [s])) :
    (h.push s).Holds retention (all ++ [s]) := by
  obtain ⟨same, entries⟩ := ho
  refine ⟨(h.push_retention s).trans same, ?_⟩
  have ordered : Timely (h.entries ++ [s]) := by
    rw [entries]
    exact List.Pairwise.sublist (List.filter_sublist.append_right _) timely
  rw [History.push, same, newest_concat]
  dsimp only
  rw [since_eq_filter ordered, entries, List.filter_append, List.filter_append,
    filter_isWithin timely.newest_le (Nat.le_refl _)]

/-- Calls hold what is left of the snapshots so far. -/
lemma serveAll {calls : List (HistoryCall α)} (ho : h.Holds retention all)
    (timely : Timely (all ++ pushed calls)) :
    (h.serveAll calls).Holds retention (all ++ pushed calls) := by
  induction calls generalizing h all with
  | nil =>
    rw [pushed, List.filterMap_nil, List.append_nil]
    exact ho
  | cons call calls ih =>
    cases call with
    | push s =>
      have e : all ++ pushed (.push s :: calls) = (all ++ [s]) ++ pushed calls :=
        List.append_cons all s (pushed calls)
      rw [e] at timely ⊢
      exact ih (ho.push (timely.sublist (List.sublist_append_left _ _))) timely
    | sample window now => exact ih ho timely

/-- A window within the retention reads as if nothing had been forgotten. -/
lemma transparent {w : Duration} {now : Instant} (ho : h.Holds retention all)
    (timely : Timely all) (short : w ≤ retention) (le : newest all ≤ now) :
    h.sample (some w) now = all.filter (isWithin now w) := by
  rw [sample_eq_filter (ho.timely timely), ho.entries, filter_isWithin le short]

/-- The latest snapshot is never forgotten. -/
lemma last (ho : h.Holds retention all) : h.last? = all.getLast? := by
  rw [last?, ho.entries]
  cases List.eq_nil_or_concat all with
  | inl none => rw [none]; rfl
  | inr some =>
    obtain ⟨l, s, e⟩ := some
    have within : isWithin (takenAt s) retention s = true := by
      rw [isWithin, decide_eq_true_eq]
      exact Nat.le_add_right _ _
    rw [e, List.concat_eq_append, newest_concat, List.filter_append,
      List.filter_cons_of_pos within, List.filter_nil, List.getLast?_concat, List.getLast?_concat]

end Holds

/-- A history retains the snapshots within its retention, whatever is pushed and read in between, as
long as no snapshot is dated before an earlier one. -/
theorem retains (retention : Duration) (calls : List (HistoryCall α))
    (timely : Timely (pushed calls)) :
    Retains retention (pushed calls) ((empty retention).serveAll calls) := by
  have fresh : (empty retention : History α).Holds retention [] := ⟨rfl, rfl⟩
  have ho : ((empty retention).serveAll calls).Holds retention (pushed calls) :=
    fresh.serveAll timely
  have ordered := ho.timely timely
  refine ⟨ho.entries, ho.last, fun _ => rfl, ?_, ?_, ?_, ?_⟩
  · intro w now
    refine ⟨?_, List.drop_suffix _ _⟩
    rw [serve, sample_eq_filter ordered]
  · intro w now short le
    exact ho.transparent timely short le
  · intro le
    rw [ho.entries, List.filter_eq_self]
    exact fun s _ => isWithin_of_covers le
  · intro w now le
    rw [sample_eq_filter ordered, List.filter_eq_self]
    exact fun s _ => isWithin_of_covers le

end History

end

/-- Two snapshots share a time, and one lies right on the edge of the retention and another on the
edge of the window. A read in between leaves no trace. -/
theorem History.retains_of_edges :
    ∃ calls : List (HistoryCall ClientSnapshot), Timely (pushed calls) ∧
      Retains 10 (pushed calls) ((empty 10).serveAll calls) ∧
      ((empty 10).serveAll calls).entries.map takenAt = [5, 12, 12, 15] ∧
      (((empty 10).serveAll calls).sample (some 3) 15).map takenAt = [12, 12, 15] := by
  let client (now : Instant) : ClientSnapshot := ⟨now, false, 0, 0, 1⟩
  let calls : List (HistoryCall ClientSnapshot) :=
    [.push (client 4), .push (client 5), .sample (some 0) 5, .push (client 12),
      .push (client 12), .push (client 15)]
  have timely : Timely (pushed calls) := by
    rw [Timely]
    decide
  have retains := retains 10 calls timely
  refine ⟨calls, timely, retains, rfl, ?_⟩
  rw [retains.transparent 3 15 (by decide) (by decide)]
  rfl

end Headroom
