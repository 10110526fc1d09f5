import Headroom.Proofs.Config.Intervals
import Headroom.Proofs.Scenario.Later

/-!
# Wake-ups of the event-loop sampler

The event-loop sampler sleeps one period at a time, each time from the instant at which it was last
woken (`World.Turn.sleeps`). So a delay is that of one sleep alone, and lateness does not add up,
however late single wake-ups are and whatever else the world does in between
(`EventLoop.Sampled.asleep`). The instants of the wake-ups may be any that leave time for the sleeps
(`EventLoop.exists_sampled`), and the measurement is right for any that are a period apart
(`EventLoop.Paced.append_measured`). `EventLoop.keeps_pace` says all of this.
-/

namespace Headroom

/-! ## Whole turns -/

/-- A job has a whole turn, piece by piece until it waits. -/
inductive World.Turn (id : JobId) : World → Job → World → Job → Prop where
  | waits {w v job next} : w.turn id job = (v, .wait next) → Turn id w job v next
  | goesOn {w v u job piece next} :
    w.turn id job = (v, .goOn piece) → Turn id v piece u next → Turn id w job u next

namespace World

/-- When a schedule gives a job its turn, the job has it whole. -/
theorem Turn.runUntil {id : JobId} {w v : World} {job next : Job} (turn : Turn id w job v next)
    (limit : Instant) (fuel : Nat) :
    ∃ pieces, World.runUntil limit (fuel + pieces) (some (id, job)) w =
      World.runUntil limit fuel none { v with schedule := v.schedule.store id next } := by
  induction turn with
  | waits e =>
    refine ⟨1, ?_⟩
    rw [World.runUntil, e]
  | goesOn e _ ih =>
    obtain ⟨pieces, e1⟩ := ih
    refine ⟨pieces + 1, ?_⟩
    rw [← Nat.add_assoc, World.runUntil, e]
    exact e1

/-- The time that the event-loop sampler sleeps. -/
def eventLoopPeriod (w : World) : Duration := w.snapshotter.config.eventLoopInterval

/-- The sampler sleeps for some time. -/
lemma eventLoopPeriod_pos (w : World) : 0 < w.eventLoopPeriod :=
  (Duration.bounded_range w.snapshotter.config.eventLoopSecs).1

end World

/-- Nobody is woken early. -/
lemma Instant.le_wakeTime (t : Instant) : t ≤ t.wakeTime := by
  have up (n : Nat) : n ≤ (n + (1000000 - 1)) / 1000000 * 1000000 := by omega
  exact up t

/-- A deadline that is due has passed. -/
lemma Instant.le_of_isDue {t now : Instant} (due : t.isDue now = true) : t ≤ now :=
  t.le_wakeTime.trans (of_decide_eq_true due)

namespace World

variable {id : JobId} {w v : World} {next : Job} {since : Instant}

/-- Nobody is woken from a sleep that has just begun. -/
lemma isDue_now (w : World) : Instant.isDue (w.now + w.eventLoopPeriod) w.now = false := by
  refine eq_false_of_ne_true fun due => ?_
  exact absurd (Instant.le_of_isDue due)
    (Nat.not_le.mpr (Nat.lt_add_of_pos_right w.eventLoopPeriod_pos))

/-- A sampler that is woken early sleeps on. -/
lemma turn_early (id : JobId) (early : Instant.isDue (since + w.eventLoopPeriod) w.now = false) :
    w.turn id (.eventLoop (some since)) =
      w.waitUntil id (since + w.eventLoopPeriod) (.eventLoop (some since)) :=
  if_neg (ne_true_of_eq_false early)

/-- A sampler whose sleep is over measures it and sleeps anew. -/
lemma turn_due (id : JobId) (due : Instant.isDue (since + w.eventLoopPeriod) w.now = true) :
    w.turn id (.eventLoop (some since)) =
      ({ w with snapshotter := w.snapshotter.wokenAfterSleep since w.now },
        .goOn (.eventLoop none)) :=
  if_pos due

/-- A sampler that has not slept yet goes to sleep. -/
lemma Turn.begins (turn : Turn id w (.eventLoop none) v next) :
    next = .eventLoop (some w.now) ∧ v.snapshotter = w.snapshotter := by
  cases turn with
  | waits e => cases e
  | goesOn e turn =>
    cases e
    have early := w.turn_early id w.isDue_now
    cases turn with
    | waits e =>
      rw [early] at e
      cases e
      exact ⟨rfl, rfl⟩
    | goesOn e =>
      rw [early] at e
      cases e

/-- What a turn of a sleeping sampler comes to. -/
inductive Sleeps (w : World) (since : Instant) (v : World) (next : Job) : Prop where
  | on (job : next = .eventLoop (some since)) (kept : v.snapshotter = w.snapshotter)
  /-- It has been woken, records that, and goes to sleep again at once. -/
  | anew (due : Instant.isDue (since + w.eventLoopPeriod) w.now = true)
    (job : next = .eventLoop (some w.now))
    (woken : v.snapshotter = w.snapshotter.wokenAfterSleep since w.now)

/-- A turn of a sleeping sampler lets it sleep on or measures the sleep. -/
lemma Turn.sleeps (turn : Turn id w (.eventLoop (some since)) v next) : Sleeps w since v next := by
  cases due : Instant.isDue (since + w.eventLoopPeriod) w.now with
  | false =>
    have early := turn_early id due
    cases turn with
    | waits e =>
      rw [early] at e
      cases e
      exact .on rfl rfl
    | goesOn e =>
      rw [early] at e
      cases e
  | true =>
    have wakes := turn_due id due
    cases turn with
    | waits e =>
      rw [wakes] at e
      cases e
    | goesOn e turn =>
      rw [wakes] at e
      cases e
      obtain ⟨job, kept⟩ := turn.begins
      exact .anew due job kept

end World

/-! ## The life of a sampler -/

namespace EventLoop

open World (Turn Later)

/-- The life of an event-loop sampler: as what job it was left in which world, the instants at
which it went to sleep, and what it recorded. The first of these instants is that of its first turn,
and the others those at which it was woken. -/
inductive Sampled (id : JobId) :
    World → Job → List Instant → List EventLoopSnapshot → Prop where
  | begins {w v job} : Turn id w (.eventLoop none) v job → Sampled id v job [w.now] []
  /-- Something else happens while it sleeps, such as turns of other jobs (`World.turn_later`) or an
  action from outside (`World.act_later`). -/
  | meanwhile {w v job wakes records} :
    Sampled id w job wakes records → Later w v → Sampled id v job wakes records
  /-- It has a turn in which it records nothing. -/
  | sleepsOn {w v job next wakes records} :
    Sampled id w job wakes records →
    Turn id w job v next →
    v.snapshotter.eventLoop = w.snapshotter.eventLoop →
    Sampled id v next wakes records
  | wakes {w v job next wakes records r} :
    Sampled id w job wakes records →
    Turn id w job v next →
    v.snapshotter.eventLoop = w.snapshotter.eventLoop.push r →
    Sampled id v next (wakes ++ [w.now]) (records ++ [r])

/-- What is recorded of wake-ups, each measured from the one before. -/
def measured (s : Snapshotter) (since : Instant) : List Instant → List EventLoopSnapshot
  | [] => []
  | now :: rest =>
    let s := s.wokenAfterSleep since now
    s.eventLoop.last?.toList ++ measured s now rest

/-- Each wake-up after the first was recorded with the delay of its own sleep. -/
structure Paced (period limit : Duration) (wakes : List Instant)
    (records : List EventLoopSnapshot) : Prop where
  count : wakes.length = records.length + 1
  delay : ∀ k before now r, wakes[k]? = some before → wakes[k + 1]? = some now →
    records[k]? = some r → before + period ≤ now ∧ r.delay = now - before - period ∧ r.instant = now
  /-- Together the sleeps have taken the whole time, and no more. -/
  total : ∀ first last, wakes.head? = some first → wakes.getLast? = some last →
    first + (records.map fun r => r.delay + period).sum = last
  /-- A wake-up on time has no delay, however late those before it were. -/
  onTime : ∀ k before r, wakes[k]? = some before → wakes[k + 1]? = some (before + period) →
    records[k]? = some r → r.delay = 0 ∧ r.overloaded = false
  verdict : ∀ r ∈ records, (r.overloaded = true ↔ limit < r.delay) ∧ r.maxDelay = limit

end EventLoop

/-! ## What a wake-up adds -/

namespace History

variable {α : Type} [Snapshot α]

/-- A snapshot is never added in vain. -/
lemma push_ne (h : History α) (s : α) : h.push s ≠ h := by
  intro same
  have entries : (h.entries ++ [s]).dropWhile (isOlder (takenAt s) h.retention) = h.entries :=
    congrArg History.entries same
  cases e : h.entries with
  | nil =>
    have last := h.push_last? s
    rw [same, last?, e] at last
    cases last
  | cons first rest =>
    rw [e, List.cons_append, List.dropWhile_cons] at entries
    split at entries
    · next older =>
      -- What is left of the rest would begin with the snapshot that was dropped.
      have kept := List.head?_dropWhile_not (isOlder (takenAt s) h.retention) (rest ++ [s])
      rw [entries, List.head?_cons] at kept
      exact absurd (older.symm.trans kept) (by decide)
    · have length := congrArg List.length entries
      rw [List.length_cons, List.length_cons, List.length_append, List.length_singleton] at length
      omega

/-- A history tells what was pushed last. -/
lemma push_injective (h : History α) {s t : α} (same : h.push s = h.push t) : s = t := by
  have last : (h.push s).last? = (h.push t).last? := congrArg last? same
  rw [push_last?, push_last?] at last
  exact Option.some.inj last

end History

namespace EventLoop

open World (Turn Later)

/-- The snapshot of a wake-up. -/
def snapshot (period limit : Duration) (since now : Instant) : EventLoopSnapshot :=
  let delay := Snapshotter.lateness period since now
  ⟨now, limit < delay, delay, limit⟩

/-- A wake-up adds the snapshot of the sleep that it ends. -/
@[simp]
lemma woken_eventLoop (s : Snapshotter) (since now : Instant) :
    (s.wokenAfterSleep since now).eventLoop =
      s.eventLoop.push (snapshot s.config.eventLoopInterval s.config.maxBlocked since now) := rfl

namespace Paced

variable {period limit : Duration} {wakes : List Instant} {records : List EventLoopSnapshot}

/-- A sampler that has just begun has measured nothing. -/
lemma first (period limit : Duration) (now : Instant) : Paced period limit [now] [] where
  count := rfl
  delay _ _ _ _ _ _ none := nomatch none
  total := by
    rintro _ _ ⟨⟩ ⟨⟩
    rfl
  onTime _ _ _ _ _ none := nomatch none
  verdict _ member := nomatch member

/-- A wake-up on time is one whose delay is that of its own sleep. -/
lemma of_delay (count : wakes.length = records.length + 1)
    (delay : ∀ k before now r, wakes[k]? = some before → wakes[k + 1]? = some now →
      records[k]? = some r →
      before + period ≤ now ∧ r.delay = now - before - period ∧ r.instant = now)
    (total : ∀ first last, wakes.head? = some first → wakes.getLast? = some last →
      first + (records.map fun r => r.delay + period).sum = last)
    (verdict : ∀ r ∈ records, (r.overloaded = true ↔ limit < r.delay) ∧ r.maxDelay = limit) :
    Paced period limit wakes records where
  count := count
  delay := delay
  total := total
  onTime k before r wake wake1 record := by
    obtain ⟨_, own, _⟩ := delay k before (before + period) r wake wake1 record
    rw [Nat.add_sub_cancel_left, Nat.sub_self] at own
    refine ⟨own, eq_false_of_ne_true fun overloaded => ?_⟩
    have above := (verdict r (List.mem_of_getElem? record)).1.mp overloaded
    rw [own] at above
    exact absurd above (Nat.not_lt_zero _)
  verdict := verdict

/-- The delay of one more sleep is its own, and those before it are as they were. -/
lemma delay_concat (paced : Paced period limit wakes records) {since now : Instant}
    (last : wakes.getLast? = some since) (le : since + period ≤ now) (k : Nat)
    {before next : Instant} {r : EventLoopSnapshot} (wake : (wakes ++ [now])[k]? = some before)
    (wake1 : (wakes ++ [now])[k + 1]? = some next)
    (record : (records ++ [snapshot period limit since now])[k]? = some r) :
    before + period ≤ next ∧ r.delay = next - before - period ∧ r.instant = next := by
  have count := paced.count
  rcases Nat.lt_or_ge k records.length with old | new
  · rw [List.getElem?_append_left (by omega)] at wake wake1 record
    exact paced.delay k before next r wake wake1 record
  · obtain ⟨valid, _⟩ := List.getElem?_eq_some_iff.mp record
    rw [List.length_append, List.length_singleton] at valid
    obtain rfl : k = records.length := by omega
    rw [List.getElem?_concat_length] at record
    rw [← count, List.getElem?_concat_length] at wake1
    rw [List.getElem?_append_left (by omega)] at wake
    rw [List.getLast?_eq_getElem?, count, Nat.add_sub_cancel, wake] at last
    cases record
    cases wake1
    cases last
    exact ⟨le, rfl, rfl⟩

/-- One more sleep and its delay reach from the last wake-up to the next. -/
lemma total_concat (paced : Paced period limit wakes records) {since now : Instant}
    (last : wakes.getLast? = some since) (le : since + period ≤ now) {first : Instant}
    (head : wakes.head? = some first) :
    first + ((records ++ [snapshot period limit since now]).map fun r => r.delay + period).sum =
      now := by
  rw [List.map_append, List.sum_append, ← Nat.add_assoc, paced.total first since head last]
  show since + (now - since - period + period + 0) = now
  rw [Nat.add_zero, Nat.sub_add_cancel (Nat.le_sub_of_add_le' le),
    Nat.add_sub_cancel' ((Nat.le_add_right since period).trans le)]

/-- A wake-up after the period keeps the pace. -/
lemma woken (paced : Paced period limit wakes records) {since now : Instant}
    (last : wakes.getLast? = some since) (le : since + period ≤ now) :
    Paced period limit (wakes ++ [now]) (records ++ [snapshot period limit since now]) := by
  refine of_delay ?count ?delay ?total ?verdict
  case count =>
    rw [List.length_append, List.length_append, List.length_singleton, paced.count,
      List.length_singleton]
  case delay => exact fun k _ _ _ => paced.delay_concat last le k
  case total =>
    intro first last1 head last2
    have rest : wakes ≠ [] := by
      rintro rfl
      cases last
    rw [List.head?_append_of_ne_nil _ rest] at head
    rw [List.getLast?_concat] at last2
    cases last2
    exact paced.total_concat last le head
  case verdict =>
    intro r member
    rcases List.mem_append.mp member with old | new
    · exact paced.verdict r old
    · cases List.mem_singleton.mp new
      exact ⟨decide_eq_true_iff, rfl⟩

/-- Wake-ups that are a period apart are measured rightly, at whatever instants they come. -/
lemma append_measured (s : Snapshotter) {since : Instant} (rest : List Instant)
    (paced : Paced s.config.eventLoopInterval s.config.maxBlocked wakes records)
    (last : wakes.getLast? = some since)
    (apart : (since :: rest).IsChain (· + s.config.eventLoopInterval ≤ ·)) :
    Paced s.config.eventLoopInterval s.config.maxBlocked (wakes ++ rest)
      (records ++ measured s since rest) := by
  induction rest generalizing s since wakes records with
  | nil =>
    rw [measured, List.append_nil, List.append_nil]
    exact paced
  | cons now rest ih =>
    obtain ⟨le, chain⟩ := List.isChain_cons_cons.mp apart
    rw [measured, woken_eventLoop, History.push_last?, Option.toList_some, List.append_cons,
      ← List.append_assoc]
    exact ih (s.wokenAfterSleep since now) (paced.woken last le) List.getLast?_concat chain

end Paced

variable {id : JobId} {w : World} {job : Job} {wakes : List Instant}
variable {records : List EventLoopSnapshot}

/-- Between two turns a sampler sleeps, and has done so since it was last woken. -/
lemma Sampled.asleep (life : Sampled id w job wakes records) :
    (∃ since, job = .eventLoop (some since) ∧ wakes.getLast? = some since) ∧
    Paced w.snapshotter.config.eventLoopInterval w.snapshotter.config.maxBlocked wakes records := by
  induction life with
  | begins turn =>
    obtain ⟨asleep, _⟩ := turn.begins
    exact ⟨⟨_, asleep, rfl⟩, .first _ _ _⟩
  | meanwhile _ later ih =>
    rw [later.config]
    exact ih
  | @sleepsOn w v _ _ _ _ _ turn silent ih =>
    obtain ⟨⟨since, rfl, last⟩, paced⟩ := ih
    cases turn.sleeps with
    | on asleep kept =>
      rw [kept]
      exact ⟨⟨since, asleep, last⟩, paced⟩
    | anew due asleep woken =>
      rw [woken, woken_eventLoop] at silent
      exact absurd silent (History.push_ne _ _)
  | @wakes w v _ _ _ _ r _ turn recorded ih =>
    obtain ⟨⟨since, rfl, last⟩, paced⟩ := ih
    cases turn.sleeps with
    | on asleep kept =>
      rw [kept] at recorded
      exact absurd recorded.symm (History.push_ne _ _)
    | anew due asleep woken =>
      rw [woken, woken_eventLoop] at recorded
      rw [woken, ← History.push_injective _ recorded]
      exact ⟨⟨w.now, asleep, List.getLast?_concat⟩, paced.woken last (Instant.le_of_isDue due)⟩

/-! ## Any wake-ups -/

/-- A sleep that began at one instant is over at another. The clock wakes jobs at whole
milliseconds, which may be a little later than the end of the period. -/
def Rested (period : Duration) (before now : Instant) : Prop :=
  Instant.isDue (before + period) now = true

instance (period : Duration) : DecidableRel (Rested period) := fun before now =>
  inferInstanceAs (Decidable (Instant.isDue (before + period) now = true))

/-- A sampler begins with a sleep. -/
lemma exists_begins (id : JobId) (w : World) :
    ∃ v, Turn id w (.eventLoop none) v (.eventLoop (some w.now)) ∧
      v.snapshotter = w.snapshotter ∧ v.now = w.now := by
  have early := w.turn_early id w.isDue_now
  exact ⟨_, .goesOn rfl (.waits early), rfl, w.schedule.setAlarm_now _ _⟩

/-- A sampler that has rested may be woken. -/
lemma exists_anew (id : JobId) {w : World} {since : Instant}
    (rested : Rested w.eventLoopPeriod since w.now) :
    ∃ v, Turn id w (.eventLoop (some since)) v (.eventLoop (some w.now)) ∧
      v.snapshotter = w.snapshotter.wokenAfterSleep since w.now ∧ v.now = w.now := by
  obtain ⟨v, turn, kept, clock⟩ :=
    exists_begins id { w with snapshotter := w.snapshotter.wokenAfterSleep since w.now }
  exact ⟨v, .goesOn (World.turn_due id rested) turn, kept, clock⟩

/-- A sampler that has just gone to sleep can be woken when that sleep is over. -/
lemma Sampled.exists_concat {since now : Instant}
    (life : Sampled id w (.eventLoop (some since)) wakes records) (clock : w.now = since)
    (rested : Rested w.eventLoopPeriod since now) :
    ∃ v records, v.snapshotter.config = w.snapshotter.config ∧ v.now = now ∧
      Sampled id v (.eventLoop (some now)) (wakes ++ [now]) records := by
  have le := (Nat.le_add_right since w.eventLoopPeriod).trans (Instant.le_of_isDue rested)
  have later := w.advance_later now
  generalize e : ({ w with schedule := w.schedule.advanceTo now } : World) = t at later
  obtain rfl : t.now = now := by
    rw [← e]
    exact Nat.max_eq_right (clock.trans_le le)
  have period : t.eventLoopPeriod = w.eventLoopPeriod :=
    congrArg SnapshotterConfig.eventLoopInterval later.config
  rw [← period] at rested
  obtain ⟨v, turn, woken, clock1⟩ := exists_anew id rested
  have config : v.snapshotter.config = t.snapshotter.config := by
    rw [woken]
    rfl
  have recorded := congrArg Snapshotter.eventLoop woken
  rw [woken_eventLoop] at recorded
  exact ⟨v, _, config.trans later.config, clock1, (life.meanwhile later).wakes turn recorded⟩

/-- It can be woken at any instants after that, each far enough from the one before. -/
lemma Sampled.exists_append {since : Instant} (rest : List Instant)
    (life : Sampled id w (.eventLoop (some since)) wakes records) (clock : w.now = since)
    (rested : (since :: rest).IsChain (Rested w.eventLoopPeriod)) :
    ∃ v job records, v.snapshotter.config = w.snapshotter.config ∧
      Sampled id v job (wakes ++ rest) records := by
  induction rest generalizing w since wakes records with
  | nil => exact ⟨w, _, records, rfl, by rw [List.append_nil]; exact life⟩
  | cons now rest ih =>
    obtain ⟨first, chain⟩ := List.isChain_cons_cons.mp rested
    obtain ⟨v, records1, config, clock1, life1⟩ := life.exists_concat clock first
    have period : v.eventLoopPeriod = w.eventLoopPeriod :=
      congrArg SnapshotterConfig.eventLoopInterval config
    obtain ⟨u, job, records2, config1, life2⟩ := ih life1 clock1 (period ▸ chain)
    rw [List.append_assoc] at life2
    exact ⟨u, job, records2, config1.trans config, life2⟩

/-- Any wake-ups that leave time for the sleeps are those of a sampler. -/
lemma exists_sampled (id : JobId) (w : World) (rest : List Instant)
    (rested : (w.now :: rest).IsChain (Rested w.eventLoopPeriod)) :
    ∃ v job records, v.snapshotter.config = w.snapshotter.config ∧
      Sampled id v job (w.now :: rest) records := by
  obtain ⟨v, turn, kept, clock⟩ := exists_begins id w
  have period : v.eventLoopPeriod = w.eventLoopPeriod :=
    congrArg (·.config.eventLoopInterval) kept
  obtain ⟨u, job, records, config, life⟩ :=
    (Sampled.begins turn).exists_append rest clock (period ▸ rested)
  exact ⟨u, job, records, config.trans (congrArg (·.config) kept), life⟩

/-- The event-loop sampler measures the lateness of each sleep alone. That is so in every life of a
sampler, which can be woken at any instants between which its sleeps can be over, and it is a matter
of these instants only, which need not even be whole milliseconds. -/
theorem keeps_pace (id : JobId) :
    (∀ {w job wakes records}, Sampled id w job wakes records →
      Paced w.snapshotter.config.eventLoopInterval w.snapshotter.config.maxBlocked wakes records) ∧
    (∀ (w : World) (rest : List Instant), (w.now :: rest).IsChain (Rested w.eventLoopPeriod) →
      ∃ v job records, v.snapshotter.config = w.snapshotter.config ∧
        Sampled id v job (w.now :: rest) records) ∧
    ∀ (s : Snapshotter) (first : Instant) (rest : List Instant),
      (first :: rest).IsChain (· + s.config.eventLoopInterval ≤ ·) →
      Paced s.config.eventLoopInterval s.config.maxBlocked (first :: rest)
        (measured s first rest) := by
  refine ⟨?lives, exists_sampled id, ?measures⟩
  case lives => exact fun life => life.asleep.2
  case measures =>
    intro s first rest apart
    exact Paced.append_measured s rest (.first _ _ first) rfl apart

/-- A sampler is woken 60 ms late and then on time. Only the first of these is a delay, and it is
too long. -/
theorem keeps_pace_of_late :
    ∃ v job late onTime,
      Sampled 0 v job [0, 560 * Duration.millisecond, 1060 * Duration.millisecond]
        [late, onTime] ∧
      late.delay = 60 * Duration.millisecond ∧ late.overloaded = true ∧
      onTime.delay = 0 ∧ onTime.overloaded = false := by
  let w : World := ⟨.new {} false, {}, .fixed {}, .none, #[], {}, [], #[], []⟩
  obtain ⟨v, job, records, config, life⟩ := (keeps_pace 0).2.1 w
    [560 * Duration.millisecond, 1060 * Duration.millisecond] (by decide +kernel)
  have paced := (keeps_pace 0).1 life
  have period : v.snapshotter.config.eventLoopInterval = 500 * Duration.millisecond := by
    rw [config]
    decide +kernel
  have limit : v.snapshotter.config.maxBlocked = 50 * Duration.millisecond := by
    rw [config]
    decide +kernel
  rw [period, limit] at paced
  match records, paced.count with
  | [late, onTime], _ =>
    obtain ⟨_, delay, _⟩ := paced.delay 0 _ _ late rfl rfl rfl
    obtain ⟨verdict, _⟩ := paced.verdict late List.mem_cons_self
    obtain ⟨none, calm⟩ := paced.onTime 1 _ onTime rfl rfl rfl
    have delay1 : late.delay = 60 * Duration.millisecond := delay.trans (by decide +kernel)
    have above : 50 * Duration.millisecond < late.delay := by
      rw [delay1]
      decide +kernel
    exact ⟨v, job, late, onTime, life, delay1, verdict.mpr above, none, calm⟩

end EventLoop

end Headroom
