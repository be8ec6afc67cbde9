import DSProd.SiteStats.Judging
import Mathlib.Algebra.Order.Field.Power
import Mathlib.Tactic.Positivity

/-!
# Quarantines escalate on fresh evidence

The log of the quarantines of one site over a history of calls, read off the
changes of its record.  Between two bans the record says when the last one
ended, first in `quarantined_until` and, once that is lifted, in `cleared_at`;
the invariant carries this moment, because it is where the evidence for the
next ban begins.
-/

namespace DSProd.SiteStats

open DSProd.Library

/-! ## The log -/

/-- The failures on which a site is judged: those of the burst, if there is
one, and else those of the rate test. -/
def evidence (stats : SiteStats) (site : String) (entry : SiteRecord) (now : ℚ) : List Event :=
  if isBurst stats site entry now then failures (eventsSince entry (burstSince stats entry now))
  else failures (countedEvents entry entry.clearedAt)

/-- One quarantine: its beginning and end, the count it leaves, and the
failures that earned it. -/
structure Ban where
  start : ℚ
  ending : ℚ
  count : ℤ
  earned : List Event

/-- The quarantine a call imposes on a site: the call leaves the site banned
until a moment until which it was not banned before. -/
def imposed (stats : SiteStats) (site : String) (op : Op) : List Ban :=
  match op with
  | .blacklist now =>
      let before := entryOf stats site
      let after := entryOf (stats.apply op) site
      if after.quarantinedUntil ≠ 0 ∧ after.quarantinedUntil ≠ before.quarantinedUntil then
        [⟨now, after.quarantinedUntil, after.quarantines,
          evidence (stats.settle now) site (entryOf (stats.settle now) site) now⟩]
      else []
  | _ => []

/-- The quarantines of a site over a history, in order. -/
def bans (site : String) (stats : SiteStats) : List Op → List Ban
  | [] => []
  | op :: rest => imposed stats site op ++ bans site (stats.apply op) rest

theorem bans_concat (site : String) (stats : SiteStats) (ops : List Op) (op : Op) :
    bans site stats (ops ++ [op]) =
      bans site stats ops ++ imposed (run apply stats ops) site op := by
  induction ops generalizing stats with
  | nil => simp [bans]
  | cons head rest ih => simp [bans, ih]

/-! ## What a ban rests on -/

theorem mem_failures {events : List Event} {event : Event} :
    event ∈ failures events ↔ event ∈ events ∧ event.2 = false := by
  simp [failures]

theorem needed_of_worseThanOthers {cfg : Config} {tally : Nat × Nat} {needed : ℤ}
    {others : Nat × ℚ} (worse : worseThanOthers cfg tally needed others = true) :
    needed ≤ tally.2 := by
  rw [worseThanOthers] at worse
  split at worse
  · cases worse
  · rename_i enough
    exact not_lt.mp fun fewer => enough (Or.inr fewer)

/-- The evidence against a banned site is large enough. -/
theorem le_length_evidence {stats : SiteStats} {site : String} {entry : SiteRecord} {now : ℚ}
    (banned : condemned stats now site entry = true) :
    min stats.cfg.minFailures stats.cfg.burstFailures ≤ (evidence stats site entry now).length := by
  rw [condemned] at banned
  rw [Bool.and_eq_true, Bool.or_eq_true] at banned
  rw [evidence]
  split
  · rename_i burst
    apply le_trans (min_le_right _ _)
    exact needed_of_worseThanOthers burst
  · rename_i steady
    rcases banned.2 with burst | failing
    · exact absurd burst steady
    · apply le_trans (min_le_left _ _)
      exact needed_of_worseThanOthers failing

theorem evidence_sublist (stats : SiteStats) (site : String) (entry : SiteRecord) (now : ℚ) :
    (evidence stats site entry now).Sublist entry.events := by
  rw [evidence, failures, eventsSince, countedEvents]
  split
  · exact List.filter_sublist.trans List.filter_sublist
  · split
    · exact List.filter_sublist.trans List.filter_sublist
    · exact List.filter_sublist

/-- The evidence against a site are failures, none from before the moment it
was cleared. -/
theorem mem_evidence {stats : SiteStats} {site : String} {entry : SiteRecord} {now : ℚ}
    {event : Event} (member : event ∈ evidence stats site entry now) :
    event.2 = false ∧ (entry.clearedAt ≠ 0 → entry.clearedAt ≤ event.1) := by
  rw [evidence] at member
  split at member
  · rw [mem_failures] at member
    rcases member with ⟨among, failed⟩
    simp only [eventsSince, List.mem_filter, decide_eq_true_eq] at among
    exact ⟨failed, fun _ => le_trans (le_max_right _ _) among.2⟩
  · rw [mem_failures] at member
    obtain ⟨among, failed⟩ := member
    rw [countedEvents] at among
    split at among
    · simp only [eventsSince, List.mem_filter, decide_eq_true_eq] at among
      exact ⟨failed, fun _ => among.2⟩
    · rename_i zero
      exact ⟨failed, fun nonzero => absurd nonzero zero⟩

theorem quarantineSeconds_pos {cfg : Config} (hours : 0 < cfg.quarantineHours)
    (maxHours : 0 < cfg.maxQuarantineHours) (entry : SiteRecord) :
    0 < quarantineSeconds cfg entry := by
  rw [quarantineSeconds]
  have doubled : 0 < cfg.quarantineHours * 2 ^ min entry.quarantines 20 :=
    mul_pos hours (zpow_pos two_pos _)
  have shorter := lt_min doubled maxHours
  positivity

/-! ## The moment a ban ends -/

/-- When the last quarantine ends or ended: zero before the first. -/
def banEnd (entry : SiteRecord) : ℚ :=
  if entry.quarantinedUntil = 0 then entry.clearedAt else entry.quarantinedUntil

theorem banEnd_settleRecord (cfg : Config) (now : ℚ) (entry : SiteRecord) :
    banEnd (settleRecord cfg now entry) = banEnd entry := by
  rw [settleRecord_eq, banEnd, banEnd]
  dsimp only
  split
  case isTrue expired => simp [expired.1.ne']
  case isFalse => rfl

/-- A settled site that is not under quarantine has been cleared. -/
theorem settleRecord_of_not_lt {cfg : Config} {now : ℚ} {entry : SiteRecord}
    (nonneg : 0 ≤ entry.quarantinedUntil)
    (ended : ¬ now < (settleRecord cfg now entry).quarantinedUntil) :
    (settleRecord cfg now entry).quarantinedUntil = 0 := by
  rw [settleRecord_eq] at ended ⊢
  dsimp only at ended ⊢
  split at ended
  case isTrue expired => rw [if_pos expired]
  case isFalse kept =>
      rw [if_neg kept]
      by_contra nonzero
      exact kept ⟨lt_of_le_of_ne nonneg (Ne.symm nonzero), not_lt.mp ended⟩

/-! ## The invariant -/

theorem time_of_outcome {site : String} {ops : List Op} {event : Event}
    (reported : event ∈ outcomes site ops) : event.1 ∈ times ops := by
  rcases List.mem_filterMap.mp reported with ⟨op, member, outcome⟩
  cases op with
  | record named ok now =>
      simp only [Op.outcome?] at outcome
      split at outcome
      · cases outcome
        exact List.mem_filterMap.mpr ⟨_, member, rfl⟩
      · cases outcome
  | setInFlight jobs => cases outcome
  | blacklist now => cases outcome

/-- What holds of the record and of the log of a site after some calls. -/
structure Standing (cfg : Config) (site : String) (ops : List Op) (entry : SiteRecord)
    (log : List Ban) : Prop where
  count : entry.quarantines = log.length
  recorded : entry.events.Sublist (outcomes site ops)
  nonneg : 0 ≤ entry.quarantinedUntil
  cleared : entry.clearedAt = 0 ∨ ∃ time ∈ times ops, entry.clearedAt ≤ time
  ended : ∀ ban ∈ log, ban.ending ≤ banEnd entry
  started : log ≠ [] → 0 < banEnd entry
  begun : ∀ ban ∈ log, ban.start < ban.ending
  enough : ∀ ban ∈ log, min cfg.minFailures cfg.burstFailures ≤ (ban.earned.length : ℤ)
  earned : ∀ ban ∈ log, ban.earned.Sublist (outcomes site ops) ∧
    ∀ event ∈ ban.earned, event.2 = false ∧ event.1 ≤ ban.start
  apart : log.Pairwise fun earlier later =>
    earlier.ending ≤ later.start ∧ ∀ event ∈ later.earned, earlier.ending ≤ event.1
  counted : log.map Ban.count = (List.range log.length).map fun (index : Nat) => (index : ℤ) + 1
  lasting : ∀ ban ∈ log, ban.ending - ban.start =
    min (cfg.quarantineHours * 2 ^ min (ban.count - 1) 20) cfg.maxQuarantineHours * 3600

theorem standing_nil (cfg : Config) (site : String) :
    Standing cfg site [] newRecord [] := by
  constructor <;> simp [newRecord, outcomes]

/-- A call that leaves the count and the end of the last ban keeps the log. -/
theorem Standing.keep {cfg : Config} {site : String} {ops : List Op} {op : Op}
    {before after : SiteRecord} {log : List Ban} (standing : Standing cfg site ops before log)
    (count : after.quarantines = before.quarantines) (sameEnd : banEnd after = banEnd before)
    (nonneg : 0 ≤ after.quarantinedUntil)
    (cleared : after.clearedAt = 0 ∨ ∃ time ∈ times (ops ++ [op]), after.clearedAt ≤ time)
    (recorded : after.events.Sublist (outcomes site (ops ++ [op]))) :
    Standing cfg site (ops ++ [op]) after log := by
  constructor
  case count => rw [count, standing.count]
  case recorded => exact recorded
  case nonneg => exact nonneg
  case cleared => exact cleared
  case ended => rw [sameEnd]; exact standing.ended
  case started => rw [sameEnd]; exact standing.started
  case begun => exact standing.begun
  case enough => exact standing.enough
  case earned =>
    intro ban member
    obtain ⟨reported, failed⟩ := standing.earned ban member
    rw [outcomes_concat]
    exact ⟨reported.trans (List.sublist_append_left _ _), failed⟩
  case apart => exact standing.apart
  case counted => exact standing.counted
  case lasting => exact standing.lasting

theorem Standing.cleared_concat {cfg : Config} {site : String} {ops : List Op} {op : Op}
    {entry : SiteRecord} {log : List Ban} (standing : Standing cfg site ops entry log) :
    entry.clearedAt = 0 ∨ ∃ time ∈ times (ops ++ [op]), entry.clearedAt ≤ time := by
  rcases standing.cleared with zero | ⟨time, member, early⟩
  · exact Or.inl zero
  · right
    rw [times_concat]
    exact ⟨time, List.mem_append_left _ member, early⟩

/-- The settled record of a site stands as its record did. -/
theorem Standing.settle {cfg : Config} {site : String} {ops : List Op} {now : ℚ}
    {entry : SiteRecord} {log : List Ban} (standing : Standing cfg site ops entry log) :
    Standing cfg site (ops ++ [.blacklist now]) (settleRecord cfg now entry) log := by
  apply standing.keep (quarantines_settleRecord cfg now entry) (banEnd_settleRecord cfg now entry)
  · rw [settleRecord_eq]
    dsimp only
    split
    · exact le_refl 0
    · exact standing.nonneg
  · rw [settleRecord_eq]
    dsimp only
    split
    · rename_i expired
      right
      rw [times_concat]
      exact ⟨now, by simp [Op.time?], expired.2⟩
    · exact standing.cleared_concat
  · rw [events_settleRecord, outcomes_concat]
    apply List.filter_sublist.trans
    exact standing.recorded.trans (List.sublist_append_left _ _)

/-- A site was last cleared before the call that judges it. -/
theorem Standing.clearedAt_le {cfg : Config} {site : String} {ops : List Op} {now : ℚ}
    {entry : SiteRecord} {log : List Ban} (clocked : Clocked (ops ++ [.blacklist now]))
    (standing : Standing cfg site (ops ++ [.blacklist now]) entry log) :
    entry.clearedAt ≤ now := by
  obtain ⟨positive, latest⟩ := clocked.last rfl
  rcases standing.cleared with zero | ⟨time, member, early⟩
  · rw [zero]
    exact positive.le
  · rw [times_concat, List.mem_append] at member
    rcases member with old | new
    · exact le_trans early (latest time old)
    · simp only [Op.time?, Option.toList_some, List.mem_singleton] at new
      rwa [new] at early

/-- The evidence of a call are failures that were reported before it. -/
theorem Standing.evidence {cfg : Config} {site : String} {ops : List Op} {now : ℚ}
    {entry : SiteRecord} {log : List Ban} (clocked : Clocked (ops ++ [.blacklist now]))
    (standing : Standing cfg site (ops ++ [.blacklist now]) entry log) (stats : SiteStats) :
    (SiteStats.evidence stats site entry now).Sublist (outcomes site (ops ++ [.blacklist now])) ∧
      ∀ event ∈ SiteStats.evidence stats site entry now, event.2 = false ∧ event.1 ≤ now := by
  have reported := (evidence_sublist stats site entry now).trans standing.recorded
  constructor
  · exact reported
  · intro event among
    have known := reported.subset among
    rw [outcomes_concat] at known
    have before : event ∈ outcomes site ops := by simpa [outcomes, Op.outcome?] using known
    exact ⟨(mem_evidence among).1, (clocked.last rfl).2 event.1 (time_of_outcome before)⟩

/-- The evidence against a free site that was banned before is from after the
end of its bans. -/
theorem Standing.ending_le {cfg : Config} {site : String} {ops : List Op} {stats : SiteStats}
    {now : ℚ} {entry : SiteRecord} {log : List Ban} (standing : Standing cfg site ops entry log)
    (free : entry.quarantinedUntil = 0) {ban : Ban} (member : ban ∈ log) {event : Event}
    (among : event ∈ SiteStats.evidence stats site entry now) : ban.ending ≤ event.1 := by
  have lastEnd : banEnd entry = entry.clearedAt := by simp [banEnd, free]
  have cleared : entry.clearedAt ≠ 0 := by
    rw [← lastEnd]
    exact (standing.started (List.ne_nil_of_mem member)).ne'
  calc
    ban.ending ≤ banEnd entry := standing.ended ban member
    _ = entry.clearedAt := lastEnd
    _ ≤ event.1 := (mem_evidence among).2 cleared

/-- The ban of a settled site extends its log. -/
theorem Standing.ban {cfg : Config} {site : String} {ops : List Op} {now : ℚ}
    {stats : SiteStats} {entry : SiteRecord} {log : List Ban}
    (hours : 0 < cfg.quarantineHours) (maxHours : 0 < cfg.maxQuarantineHours)
    (cfgEq : stats.cfg = cfg) (clocked : Clocked (ops ++ [.blacklist now]))
    (standing : Standing cfg site (ops ++ [.blacklist now]) entry log)
    (free : entry.quarantinedUntil = 0)
    (banned : condemned stats now site entry = true) :
    Standing cfg site (ops ++ [.blacklist now]) (banRecord cfg now entry)
      (log ++ [⟨now, now + quarantineSeconds cfg entry, entry.quarantines + 1,
        SiteStats.evidence stats site entry now⟩]) := by
  have positive := (clocked.last rfl).1
  have longer := quarantineSeconds_pos hours maxHours entry
  have later : now < now + quarantineSeconds cfg entry := by linarith
  have newEnd : banEnd (banRecord cfg now entry) = now + quarantineSeconds cfg entry := by
    have nonzero : now + quarantineSeconds cfg entry ≠ 0 := by linarith
    simp [banEnd, banRecord, nonzero]
  have endedBefore : ∀ ban ∈ log, ban.ending ≤ now := by
    intro ban member
    have lastEnd : banEnd entry = entry.clearedAt := by simp [banEnd, free]
    exact (standing.ended ban member).trans (lastEnd.le.trans (standing.clearedAt_le clocked))
  constructor
  case count => simp [banRecord, standing.count]
  case recorded => exact standing.recorded
  case nonneg =>
    change 0 ≤ now + quarantineSeconds cfg entry
    linarith
  case cleared => exact standing.cleared
  case ended =>
    rw [newEnd, List.forall_mem_append, List.forall_mem_singleton]
    exact ⟨fun ban old => (endedBefore ban old).trans later.le, le_refl _⟩
  case started =>
    intro _
    rw [newEnd]
    linarith
  case begun =>
    rw [List.forall_mem_append, List.forall_mem_singleton]
    exact ⟨standing.begun, later⟩
  case enough =>
    rw [List.forall_mem_append, List.forall_mem_singleton, ← cfgEq]
    exact ⟨cfgEq ▸ standing.enough, le_length_evidence banned⟩
  case earned =>
    rw [List.forall_mem_append, List.forall_mem_singleton]
    exact ⟨standing.earned, standing.evidence clocked stats⟩
  case apart =>
    rw [List.pairwise_append]
    constructor
    · exact standing.apart
    constructor
    · exact List.pairwise_singleton _ _
    · intro earlier earlierMem
      rw [List.forall_mem_singleton]
      constructor
      · exact endedBefore earlier earlierMem
      · exact fun event among => standing.ending_le free earlierMem among
  case counted =>
    rw [List.map_append, standing.counted, List.length_append, List.length_singleton,
      List.range_succ, List.map_append, List.map_singleton, List.map_singleton, standing.count]
  case lasting =>
    rw [List.forall_mem_append, List.forall_mem_singleton]
    constructor
    · exact standing.lasting
    · simp [quarantineSeconds]

/-! ## One call, and a history -/

theorem imposed_of_quarantinedUntil {stats : SiteStats} {site : String} {op : Op}
    (idle : (entryOf (stats.apply op) site).quarantinedUntil = 0 ∨
      (entryOf (stats.apply op) site).quarantinedUntil = (entryOf stats site).quarantinedUntil) :
    imposed stats site op = [] := by
  cases op with
  | record named ok now => rfl
  | setInFlight jobs => rfl
  | blacklist now =>
      dsimp only [imposed]
      rw [if_neg]
      rintro ⟨nonzero, changed⟩
      rcases idle with zero | same
      · exact nonzero zero
      · exact changed same

theorem imposed_of_ban {stats : SiteStats} {site : String} {now : ℚ} (started : 0 < now)
    (hours : 0 < stats.cfg.quarantineHours) (maxHours : 0 < stats.cfg.maxQuarantineHours)
    (banned : condemned (stats.settle now) now site
      (settleRecord stats.cfg now (entryOf stats site)) = true)
    (after : entryOf (stats.apply (.blacklist now)) site =
      banRecord stats.cfg now (settleRecord stats.cfg now (entryOf stats site))) :
    imposed stats site (.blacklist now) =
      [⟨now, now + quarantineSeconds stats.cfg (settleRecord stats.cfg now (entryOf stats site)),
        (settleRecord stats.cfg now (entryOf stats site)).quarantines + 1,
        evidence (stats.settle now) site (settleRecord stats.cfg now (entryOf stats site)) now⟩]
    := by
  have longer := quarantineSeconds_pos hours maxHours
    (settleRecord stats.cfg now (entryOf stats site))
  have free : ¬ now < (entryOf stats site).quarantinedUntil := by
    rw [← lt_quarantinedUntil_settleRecord stats.cfg]
    intro running
    simp [condemned, running] at banned
  dsimp only [imposed]
  rw [after, entryOf_settle, if_pos]
  · rfl
  · constructor
    · simp only [banRecord]
      linarith
    · simp only [banRecord]
      intro same
      rw [← same] at free
      linarith

/-- What one call keeps. -/
theorem Standing.apply {cfg : Config} {site : String} {ops : List Op} {op : Op}
    {stats : SiteStats} {log : List Ban}
    (hours : 0 < cfg.quarantineHours) (maxHours : 0 < cfg.maxQuarantineHours)
    (cfgEq : stats.cfg = cfg) (clocked : Clocked (ops ++ [op]))
    (standing : Standing cfg site ops (entryOf stats site) log) :
    Standing cfg site (ops ++ [op]) (entryOf (stats.apply op) site)
      (log ++ imposed stats site op) := by
  rcases entryOf_apply_cases stats op site with ⟨same, reported⟩ | ⟨now, isBlacklist, _, after⟩ |
    ⟨now, isBlacklist, _, _, banned, after⟩
  · simp only [SiteStats.standing, Prod.mk.injEq] at same
    obtain ⟨sameUntil, sameCount, sameCleared⟩ := same
    rw [imposed_of_quarantinedUntil (Or.inr sameUntil), List.append_nil]
    apply standing.keep sameCount
    · simp only [banEnd, sameUntil, sameCleared]
    · rw [sameUntil]
      exact standing.nonneg
    · rw [sameCleared]
      exact standing.cleared_concat
    · rw [outcomes_concat]
      exact reported.trans (standing.recorded.append_right _)
  · subst isBlacklist
    have idle : (entryOf (stats.apply (.blacklist now)) site).quarantinedUntil = 0 ∨
        (entryOf (stats.apply (.blacklist now)) site).quarantinedUntil =
          (entryOf stats site).quarantinedUntil := by
      rw [after]
      by_cases running : now < (settleRecord stats.cfg now (entryOf stats site)).quarantinedUntil
      · rw [lt_quarantinedUntil_settleRecord] at running
        exact Or.inr (quarantinedUntil_settleRecord_of_lt running)
      · exact Or.inl (settleRecord_of_not_lt standing.nonneg running)
    rw [imposed_of_quarantinedUntil idle, List.append_nil, after, cfgEq]
    exact standing.settle
  · subst isBlacklist
    have started := (clocked.last rfl).1
    subst cfgEq
    rw [imposed_of_ban started hours maxHours banned after, after]
    have free : ¬ now < (settleRecord stats.cfg now (entryOf stats site)).quarantinedUntil := by
      intro running
      simp [condemned, running] at banned
    exact standing.settle.ban hours maxHours (cfg_settle stats now) clocked
      (settleRecord_of_not_lt standing.nonneg free) banned

/-- The invariant after every history. -/
theorem standing_run (cfg : Config) (hours : 0 < cfg.quarantineHours)
    (maxHours : 0 < cfg.maxQuarantineHours) (site : String) (ops : List Op)
    (clocked : Clocked ops) :
    Standing cfg site ops (entryOf (run apply (new cfg) ops) site) (bans site (new cfg) ops) := by
  induction ops using List.reverseRecOn with
  | nil => exact standing_nil cfg site
  | append_singleton ops op ih =>
      rw [run_concat, bans_concat]
      exact (ih clocked.init).apply hours maxHours (cfg_run (new cfg) ops) clocked

theorem bans_append (site : String) (stats : SiteStats) (first second : List Op) :
    bans site stats (first ++ second) =
      bans site stats first ++ bans site (run apply stats first) second := by
  induction first generalizing stats with
  | nil => simp [bans]
  | cons head rest ih => simp [bans, ih]

theorem Clocked.left {first second : List Op} (clocked : Clocked (first ++ second)) :
    Clocked first := by
  induction second using List.reverseRecOn with
  | nil => rwa [List.append_nil] at clocked
  | append_singleton rest op ih =>
      rw [← List.append_assoc] at clocked
      exact ih clocked.init

/-- Each quarantine after the first of a site is earned by fresh failures, and
lasts twice as long as the one before it, up to the ceiling. -/
theorem quarantines_escalate (cfg : Config) (hours : 0 < cfg.quarantineHours)
    (maxHours : 0 < cfg.maxQuarantineHours) (site : String) (ops : List Op)
    (clocked : Clocked ops) :
    (bans site (new cfg) ops).Pairwise (fun earlier later =>
      earlier.ending ≤ later.start ∧
      (∀ event ∈ later.earned, earlier.ending ≤ event.1) ∧
      ∀ event ∈ earlier.earned, ∀ other ∈ later.earned, event.1 < other.1) ∧
    (∀ ban ∈ bans site (new cfg) ops,
      min cfg.minFailures cfg.burstFailures ≤ (ban.earned.length : ℤ) ∧
      ban.earned.Sublist (outcomes site ops) ∧ ∀ event ∈ ban.earned, event.2 = false) ∧
    (∀ first second, ops = first ++ second →
      (entryOf (run apply (new cfg) ops) site).quarantines =
        (entryOf (run apply (new cfg) first) site).quarantines +
          (bans site (run apply (new cfg) first) second).length) ∧
    ∀ index (within : index < (bans site (new cfg) ops).length),
      (bans site (new cfg) ops)[index].count = index + 1 ∧
      (bans site (new cfg) ops)[index].ending = (bans site (new cfg) ops)[index].start +
        min (cfg.quarantineHours * 2 ^ min index 20) cfg.maxQuarantineHours * 3600 := by
  have standing := standing_run cfg hours maxHours site ops clocked
  constructor
  · apply standing.apart.imp_of_mem
    intro earlier later earlierMem laterMem separated
    rcases separated with ⟨disjoint, fresh⟩
    constructor
    · exact disjoint
    constructor
    · exact fresh
    · intro event eventMem other otherMem
      calc event.1 ≤ earlier.start := ((standing.earned earlier earlierMem).2 event eventMem).2
        _ < earlier.ending := standing.begun earlier earlierMem
        _ ≤ other.1 := fresh other otherMem
  constructor
  · intro ban member
    obtain ⟨reported, failed⟩ := standing.earned ban member
    exact ⟨standing.enough ban member, reported, fun event among => (failed event among).1⟩
  constructor
  · intro first second cut
    subst cut
    have before := standing_run cfg hours maxHours site first clocked.left
    rw [standing.count, before.count, bans_append, List.length_append]
    push_cast
    rfl
  · intro index within
    have counted : (bans site (new cfg) ops)[index].count = index + 1 := by
      have same := congrArg (fun counts => counts[index]?) standing.counted
      simpa [within] using same
    constructor
    · exact counted
    · have lasting := standing.lasting _ (List.getElem_mem within)
      have doublings : min ((bans site (new cfg) ops)[index].count - 1) 20 =
          ((min index 20 : ℕ) : ℤ) := by
        rw [counted]
        push_cast
        omega
      rw [doublings, zpow_natCast] at lasting
      linarith

/-- The record of a healthy and of a broken site, judged at one moment. -/
def brokenAt (now : ℚ) : List Op :=
  List.replicate 20 (.record "T2_B" true now) ++ List.replicate 5 (.record "T2_A" false now) ++
    [.blacklist now]

/-- A site that is still broken an hour after its first ban is banned for twice
as long. -/
theorem quarantines_escalate_twice :
    (bans "T2_A" (new {}) (brokenAt 1 ++ brokenAt 90001)).map
        (fun ban => (ban.start, ban.ending, ban.count)) =
      [(1, 86401, 1), (90001, 262801, 2)] ∧
    (bans "T2_A" (new {}) (brokenAt 1 ++ brokenAt 90001)).Pairwise (fun earlier later =>
      earlier.ending ≤ later.start ∧
      (∀ event ∈ later.earned, earlier.ending ≤ event.1) ∧
      ∀ event ∈ earlier.earned, ∀ other ∈ later.earned, event.1 < other.1) := by
  constructor
  · decide +kernel
  · apply And.left
    apply quarantines_escalate {} (by decide +kernel) (by decide +kernel) "T2_A"
    constructor <;> decide +kernel

end DSProd.SiteStats
