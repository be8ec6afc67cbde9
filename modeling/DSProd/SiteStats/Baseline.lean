import DSProd.SiteStats.Judging
import Mathlib.Data.List.MinMax

/-!
# Somewhere left to run

Within one judgement of records that no ban has touched, the site with the
lowest failure rate does no worse than the others together, so it is spared.
Bans that start at different times break this argument: a site under quarantine
keeps counting in the baseline of the others.  This module says exactly when a
call leaves a site, and that only such mixed records can leave none.
-/

namespace DSProd.SiteStats

open DSProd.Library

variable {stats : SiteStats}

/-! ## The site with the lowest rate -/

/-- When every tally fails at a rate of at least some bound, so does their sum. -/
theorem mul_sumOthers_le {bound : ℚ} (tally : String → SiteRecord → Nat × Nat) (site : String)
    {items : List (String × SiteRecord)}
    (atLeast : ∀ item ∈ items, bound * (tally item.1 item.2).1 ≤ (tally item.1 item.2).2) :
    bound * (sumOthers tally site items).1 ≤ (sumOthers tally site items).2 := by
  have general : ∀ (rest : List (String × SiteRecord)) (total : Nat × Nat),
      (∀ item ∈ rest, bound * (tally item.1 item.2).1 ≤ (tally item.1 item.2).2) →
      bound * (total.1 : ℚ) ≤ total.2 →
      bound * ((rest.foldl (fun total item =>
          if item.1 = site then total
          else (total.1 + (tally item.1 item.2).1, total.2 + (tally item.1 item.2).2))
        total).1 : ℚ) ≤
        (rest.foldl (fun total item =>
          if item.1 = site then total
          else (total.1 + (tally item.1 item.2).1, total.2 + (tally item.1 item.2).2))
        total).2 := by
    intro rest
    induction rest with
    | nil => exact fun _ _ start => start
    | cons item rest ih =>
        intro total each start
        rw [List.foldl_cons]
        apply ih _ fun other member => each other (List.mem_cons_of_mem _ member)
        split
        · exact start
        · have one := each item List.mem_cons_self
          push_cast
          linarith
  exact general items (0, 0) atLeast (by simp)

/-- What a condemning test says about the rates. -/
theorem rates_of_worseThanOthers {cfg : Config} {tally : Nat × Nat} {needed : ℤ}
    {others : Nat × ℚ} (worse : worseThanOthers cfg tally needed others = true) :
    tally.1 ≠ 0 ∧ cfg.minFailureRate ≤ rate tally ∧ cfg.minBaselineJobs ≤ others.1 ∧
      cfg.relativeFactor * others.2 ≤ rate tally := by
  rw [worseThanOthers] at worse
  split at worse
  · cases worse
  split at worse
  · cases worse
  split at worse
  · cases worse
  rename_i sent rateEnough baselineEnough
  constructor
  · exact fun none => sent (Or.inl none)
  constructor
  · exact not_lt.mp rateEnough
  constructor
  · exact not_lt.mp baselineEnough
  · exact of_decide_eq_true worse

/-- Of records judged on all their outcomes, the rate test spares one. -/
theorem exists_not_isFailing (factor : 1 < stats.cfg.relativeFactor)
    (minRate : 0 < stats.cfg.minFailureRate) (minJobs : 1 ≤ stats.cfg.minBaselineJobs)
    (nonempty : stats.sites.items ≠ [])
    (uncleared : ∀ item ∈ stats.sites.items, item.2.clearedAt = 0) :
    ∃ item ∈ stats.sites.items, isFailing stats item.1 item.2 = false := by
  by_contra noneSpared
  have failing : ∀ item ∈ stats.sites.items,
      worseThanOthers stats.cfg (counts stats item.1 item.2 0) stats.cfg.minFailures
        (baseline stats item.1) = true := by
    intro item member
    by_contra spared
    apply noneSpared
    apply Exists.intro item
    constructor
    · exact member
    · rw [isFailing, uncleared item member]
      exact Bool.eq_false_of_not_eq_true spared
  obtain ⟨least, isLeast⟩ : ∃ least, least ∈ stats.sites.items.argmin fun item =>
      rate (counts stats item.1 item.2 0) := by
    cases found : stats.sites.items.argmin fun item => rate (counts stats item.1 item.2 0) with
    | none => exact absurd (List.argmin_eq_none.mp found) nonempty
    | some least => exact ⟨least, rfl⟩
  have member := List.argmin_mem isLeast
  rcases rates_of_worseThanOthers (failing least member) with ⟨_, high, jobs, worse⟩
  have atLeast : ∀ item ∈ stats.sites.items,
      rate (counts stats least.1 least.2 0) * (counts stats item.1 item.2 0).1 ≤
        (counts stats item.1 item.2 0).2 := by
    intro item itemMem
    have sent := (rates_of_worseThanOthers (failing item itemMem)).1
    have minimal := List.le_of_mem_argmin itemMem isLeast
    have positive : (0 : ℚ) < (counts stats item.1 item.2 0).1 := by
      exact_mod_cast Nat.pos_of_ne_zero sent
    calc rate (counts stats least.1 least.2 0) * (counts stats item.1 item.2 0).1
        ≤ rate (counts stats item.1 item.2 0) * (counts stats item.1 item.2 0).1 :=
          mul_le_mul_of_nonneg_right minimal positive.le
      _ = (counts stats item.1 item.2 0).2 := by
          rw [rate, if_pos sent, div_mul_cancel₀ _ positive.ne']
  have together := mul_sumOthers_le (fun name entry => counts stats name entry 0) least.1 atLeast
  have others : baseline stats least.1 =
      ((sumOthers (fun name entry => counts stats name entry 0) least.1 stats.sites.items).1,
        rate (sumOthers (fun name entry => counts stats name entry 0) least.1
          stats.sites.items)) := rfl
  rw [others] at jobs worse
  generalize sumOthers (fun name entry => counts stats name entry 0) least.1
    stats.sites.items = total at jobs worse together
  have some : total.1 ≠ 0 := by
    dsimp only at jobs
    omega
  have positive : (0 : ℚ) < total.1 := by exact_mod_cast Nat.pos_of_ne_zero some
  have below : rate (counts stats least.1 least.2 0) ≤ rate total := by
    rw [rate.eq_1 total, if_pos some]
    exact (le_div_iff₀ positive).mpr together
  have own : 0 < rate (counts stats least.1 least.2 0) := lt_of_lt_of_le minRate high
  have beaten : rate total < stats.cfg.relativeFactor * rate total :=
    lt_mul_of_one_lt_left (lt_of_lt_of_le own below) factor
  exact absurd worse (not_le.mpr (lt_of_le_of_lt below beaten))

/-! ## When a call leaves a site -/

/-- The state whose sites a call judges. -/
def judged (stats : SiteStats) (now : ℚ) : SiteStats :=
  if stats.cfg.enabled then stats.settle now else stats

/-- Whether a call holds a site of the judged state back at its moment. -/
def HoldsBack (stats : SiteStats) (now : ℚ) (item : String × SiteRecord) : Prop :=
  now < item.2.quarantinedUntil ∨
    stats.cfg.enabled = true ∧ condemned (judged stats now) now item.1 item.2 = true ∧
      0 < quarantineSeconds stats.cfg item.2

/-- What the quarantine promises after each call: a site that is not under
quarantine, when there are sites at all. -/
def LeavesSite (stats : SiteStats) : Op → Prop
  | .blacklist now => (stats.blacklist now).2.sites.items ≠ [] →
      ∃ item ∈ (stats.blacklist now).2.sites.items, ¬ now < item.2.quarantinedUntil
  | _ => True

/-- Whether some site is under quarantine, has been, or passes the burst test. -/
def Mixed (stats : SiteStats) (now : ℚ) : Prop :=
  ∃ item ∈ (judged stats now).sites.items, now < item.2.quarantinedUntil ∨
    item.2.clearedAt ≠ 0 ∨ isBurst (judged stats now) item.1 item.2 now = true

/-- What a call has to meet for a site to be left: in mixed records, some site
is not held back. -/
def SparesWhenMixed (stats : SiteStats) : Op → Prop
  | .blacklist now => Mixed stats now →
      ∃ item ∈ (judged stats now).sites.items, ¬ HoldsBack stats now item
  | _ => True

instance (stats : SiteStats) : (op : Op) → Decidable (LeavesSite stats op)
  | .blacklist _ => inferInstanceAs (Decidable (_ → ∃ item ∈ _, _))
  | .record _ _ _ => isTrue trivial
  | .setInFlight _ => isTrue trivial

instance (stats : SiteStats) : (op : Op) → Decidable (SparesWhenMixed stats op)
  | .blacklist now =>
      have (item : String × SiteRecord) : Decidable (HoldsBack stats now item) :=
        inferInstanceAs (Decidable (_ ∨ _ ∧ _))
      inferInstanceAs (Decidable ((∃ item ∈ _, _ ∨ _ ∨ _) → ∃ item ∈ _, ¬ HoldsBack stats now item))
  | .record _ _ _ => isTrue trivial
  | .setInFlight _ => isTrue trivial

/-- A call leaves a site exactly when it does not hold them all back. -/
theorem leavesSite_iff (stats : SiteStats) (now : ℚ) :
    LeavesSite stats (.blacklist now) ↔ ((judged stats now).sites.items ≠ [] →
      ∃ item ∈ (judged stats now).sites.items, ¬ HoldsBack stats now item) := by
  cases enabled : stats.cfg.enabled with
  | false =>
      simp [LeavesSite, judged, HoldsBack, blacklist_of_disabled, enabled]
  | true =>
      have ended : ∀ (site : String) (entry : SiteRecord),
          (judgeRecord (stats.settle now) now site entry).quarantinedUntil ≤ now ↔
            entry.quarantinedUntil ≤ now ∧
              (condemned (stats.settle now) now site entry = true →
                quarantineSeconds stats.cfg entry ≤ 0) := by
        intro site entry
        rw [judgeRecord]
        by_cases banned : condemned (stats.settle now) now site entry = true
        · have free : entry.quarantinedUntil ≤ now := by
            rw [← not_lt]
            intro running
            simp [condemned, running] at banned
          simp [banned, free, banRecord]
        · simp [banned]
      simp [LeavesSite, judged, HoldsBack, enabled, sites_blacklist enabled, Dict.mapValues,
        ended]

/-- A call on records that no ban has touched leaves a site. -/
theorem exists_not_holdsBack (factor : 1 < stats.cfg.relativeFactor)
    (minRate : 0 < stats.cfg.minFailureRate) (minJobs : 1 ≤ stats.cfg.minBaselineJobs) (now : ℚ)
    (nonempty : (judged stats now).sites.items ≠ []) (unmixed : ¬ Mixed stats now) :
    ∃ item ∈ (judged stats now).sites.items, ¬ HoldsBack stats now item := by
  have untouched : ∀ item ∈ (judged stats now).sites.items, ¬ now < item.2.quarantinedUntil ∧
      item.2.clearedAt = 0 ∧ isBurst (judged stats now) item.1 item.2 now = false := by
    intro item member
    have quiet := fun reason => unmixed ⟨item, member, reason⟩
    simpa [not_or] using quiet
  have sameCfg : (judged stats now).cfg = stats.cfg := by
    rw [judged]
    split <;> rfl
  rw [← sameCfg] at factor minRate minJobs
  rcases exists_not_isFailing factor minRate minJobs nonempty
    (fun item member => (untouched item member).2.1) with ⟨item, member, spared⟩
  obtain ⟨free, _, noBurst⟩ := untouched item member
  apply Exists.intro item
  constructor
  · exact member
  · rintro (running | ⟨_, banned, _⟩)
    · exact free running
    · simp [condemned, noBurst, spared] at banned

/-- The quarantine leaves a site after every call of a history exactly when,
at every call on mixed records, some site is not held back. -/
theorem leavesSite_iff_sparesWhenMixed (cfg : Config) (factor : 1 < cfg.relativeFactor)
    (minRate : 0 < cfg.minFailureRate) (minJobs : 1 ≤ cfg.minBaselineJobs) (ops : List Op) :
    Along apply LeavesSite (new cfg) ops ↔ Along apply SparesWhenMixed (new cfg) ops := by
  rw [along_iff_forall_cut, along_iff_forall_cut]
  apply forall_congr'
  intro first
  apply forall_congr'
  intro op
  apply forall_congr'
  intro second
  apply imp_congr_right
  intro _
  have sameCfg : (run apply (new cfg) first).cfg = cfg := cfg_run (new cfg) first
  rw [← sameCfg] at factor minRate minJobs
  cases op with
  | record site ok now => exact Iff.rfl
  | setInFlight jobs => exact Iff.rfl
  | blacklist now =>
      rw [leavesSite_iff]
      constructor
      · rintro leaves ⟨item, member, _⟩
        exact leaves (List.ne_nil_of_mem member)
      · intro spares nonempty
        by_cases mixed : Mixed (run apply (new cfg) first) now
        · exact spares mixed
        · exact exists_not_holdsBack factor minRate minJobs now nonempty mixed

/-- One of two sites is broken, and is banned. -/
def oneBroken : List Op :=
  List.replicate 20 (.record "T2_B" true 1) ++ List.replicate 20 (.record "T2_A" false 1) ++
    [.blacklist 1]

theorem leavesSite_oneBroken :
    Along apply LeavesSite (new {}) (oneBroken ++ [.blacklist 2]) := by
  apply (leavesSite_iff_sparesWhenMixed {} (by decide +kernel) (by decide +kernel)
    (by decide +kernel) _).mpr
  decide +kernel

/-- When the other site fails while jobs of the first are still in flight, they
are a healthy baseline for it, and no site is left. -/
theorem not_leavesSite_oneAfterTheOther :
    ¬ Along apply LeavesSite (new {})
      (oneBroken ++ .setInFlight (Dict.ofList [("T2_A", 60)]) ::
        (List.replicate 20 (.record "T2_B" false 2) ++ [.blacklist 2])) := by
  decide +kernel

end DSProd.SiteStats
