import DSProd.Crab.Harvest
import DSProd.Crab.PayloadLog

/-!
# Reports of failed jobs

`report_failures` of `DSProdCrabJobManager`: a status response chooses the
failed jobs whose stdout is read, and these are reported one after the other.
The projects of a poll are queried by threads of their own, which share the
record of what was reported, so the reports of one project may come between
any two of another.
-/

namespace DSProd.Crab

open DSProd.Library
open DSProd.Watchdog

/-- `max_failure_reports`. -/
def maxFailureReports : ℕ :=
  5

/-- A failed job with the URL of its stdout, `log_file`. -/
structure Failure where
  jobId : JobId
  entry : StatusEntry
  url : String

/-- A failure that a payload has a word to say about: law's own bookkeeping and
the verdicts of the watchdog carry no code. -/
def Failure.Ended (failure : Failure) : Prop :=
  failure.entry.status = .failed ∧ failure.entry.code.isSome = true ∧ failure.url ≠ ""

instance (failure : Failure) : Decidable failure.Ended :=
  inferInstanceAs (Decidable (_ ∧ _))

/-- A status response as `report_failures` finds it. -/
structure Polled where
  projDir : String
  result : Dict JobId StatusEntry
  logFile : JobId → String

/-- The jobs that failed with a code of their own and have a log. -/
def Polled.failed (polled : Polled) : List Failure :=
  (polled.result.items.map fun item => ⟨item.1, item.2, polled.logFile item.1⟩).filter
    fun failure => failure.Ended

/-- The failures that were not reported before. -/
def Polled.fresh (polled : Polled) (reportedLogs : Finset String) : List Failure :=
  polled.failed.filter fun failure => failure.url ∉ reportedLogs

/-- What a call has still to report, and how many failures it leaves out. -/
structure Pending where
  queue : List Failure
  more : ℕ

/-- The logs reported so far, and the calls by project. -/
structure Reporter where
  reportedLogs : Finset String
  calls : Dict String Pending

/-- Nothing reported. -/
def Reporter.new : Reporter :=
  ⟨∅, Dict.empty⟩

/-- What happens: a response arrives, or a call reads the next stdout. -/
inductive ReportEvent where
  | arrives (polled : Polled)
  | reads (projDir : String) (stdout : Except String (List Char))

/-- A stdout that was read, and what was printed. -/
structure Reported where
  projDir : String
  failure : Failure
  lines : List String

/-- The line about a failed job. -/
def Failure.line (isWord : Char → Bool) (failure : Failure)
    (stdout : Except String (List Char)) : String :=
  "crab job " ++ toString failure.jobId.crabNum ++ " of " ++
    Text.basename failure.jobId.projDir ++ " failed" ++
    (match failure.entry.siteHistory.getLast? with
      | none => ""
      | some site => " at " ++ site) ++
    " with exit code " ++ (failure.entry.code.elim "None" toString) ++ ": " ++
    payloadErrorText isWord failure.url stdout

/-- The line about the failures that are left out. -/
def moreLine (more : ℕ) : String :=
  "... and " ++ toString more ++ " more failed job(s) this poll whose reason was not fetched " ++
    "(max_failure_reports=" ++ toString maxFailureReports ++
    "); their stdout is linked from the job data"

/-- The state an event leaves. -/
def Reporter.step (reporter : Reporter) : ReportEvent → Reporter
  | .arrives polled =>
      let fresh := polled.fresh reporter.reportedLogs
      { reporter with
        calls := reporter.calls.set polled.projDir
          ⟨fresh.take maxFailureReports, fresh.length - maxFailureReports⟩ }
  | .reads projDir _ =>
      match reporter.calls.get? projDir with
      | some ⟨failure :: rest, more⟩ =>
          { reportedLogs := insert failure.url reporter.reportedLogs
            calls := reporter.calls.set projDir ⟨rest, more⟩ }
      | _ => reporter

/-- What an event reads and prints.  The last report of a call says what it leaves out. -/
def Reporter.reports (isWord : Char → Bool) (reporter : Reporter) :
    ReportEvent → List Reported
  | .arrives _ => []
  | .reads projDir stdout =>
      match reporter.calls.get? projDir with
      | some ⟨failure :: rest, more⟩ =>
          [⟨projDir, failure, failure.line isWord stdout ::
            if rest = [] ∧ 0 < more then [moreLine more] else []⟩]
      | _ => []

/-- A verdict of the watchdog is not reported: what is was in CRAB's own response. -/
theorem Polled.failed_applyWatchdog {manager : JobManager} {query : Query} {polled : Polled}
    (applied : polled.result = (applyWatchdog manager query).2) {failure : Failure}
    (failed : failure ∈ polled.failed) :
    query.result.get? failure.jobId = some failure.entry := by
  obtain ⟨inResult, ended⟩ := List.mem_filter.mp failed
  have isEnded : failure.Ended := of_decide_eq_true ended
  obtain ⟨item, member, rfl⟩ := List.mem_map.mp inResult
  have found : polled.result.get? item.1 = some item.2 := Dict.get?_eq_some_iff.mpr member
  rw [applied, applyWatchdog] at found
  split at found
  · exact found
  · dsimp only at found
    rw [get?_foldl_failJob query.clock _
      (manager.watchdog.verdicts query.result none query.clock).1.nodupKeys] at found
    split at found
    · exact found
    · obtain ⟨data, before, after⟩ := Option.map_eq_some_iff.mp found
      rw [before]
      rw [failEntry] at after
      split at after
      · rw [after]
      · have code := isEnded.2.1
        rw [← after] at code
        cases code

/-! ## No log is read twice -/

/-- A response names each log once and for its own project, and arrives when
the call before it is done. -/
def Orderly (owner : String → String) (reporter : Reporter) : ReportEvent → Prop
  | .arrives polled =>
      (polled.failed.map Failure.url).Nodup ∧
        (∀ failure ∈ polled.failed, owner failure.url = polled.projDir) ∧
        ∀ pending, reporter.calls.get? polled.projDir = some pending → pending.queue = []
  | .reads _ _ => True

/-- What a call has still to report is its own and was not reported. -/
structure Pending.Fresh (owner : String → String) (reportedLogs : Finset String)
    (projDir : String) (pending : Pending) : Prop where
  distinct : (pending.queue.map Failure.url).Nodup
  own : ∀ failure ∈ pending.queue, owner failure.url = projDir
  unreported : ∀ failure ∈ pending.queue, failure.url ∉ reportedLogs
  ended : ∀ failure ∈ pending.queue, failure.Ended

/-- The logs reported are those that were read, each of them once. -/
structure ReadOnce (owner : String → String) (reporter : Reporter) (log : List Reported) :
    Prop where
  once : (log.map (·.failure.url)).Nodup
  known : ∀ url, url ∈ reporter.reportedLogs ↔ url ∈ log.map (·.failure.url)
  ended : ∀ report ∈ log, report.failure.Ended
  fresh : ∀ projDir pending, reporter.calls.get? projDir = some pending →
    pending.Fresh owner reporter.reportedLogs projDir

section ReadOnce

variable {owner : String → String} {isWord : Char → Bool} {reporter : Reporter}
  {log : List Reported}

theorem ReadOnce.arrives (once : ReadOnce owner reporter log) {polled : Polled}
    (orderly : Orderly owner reporter (.arrives polled)) :
    ReadOnce owner (reporter.step (.arrives polled)) log where
  once := once.once
  known := once.known
  ended := once.ended
  fresh := by
    intro projDir pending found
    rw [Reporter.step] at found
    dsimp only at found
    rw [Dict.get?_set] at found
    split at found
    · rename_i same
      cases found
      have sublist : ((polled.fresh reporter.reportedLogs).take maxFailureReports).Sublist
          polled.failed :=
        (List.take_sublist _ _).trans List.filter_sublist
      refine ⟨orderly.1.sublist (sublist.map _), ?_, ?_, ?_⟩
      · intro failure member
        exact (orderly.2.1 failure (sublist.subset member)).trans same.symm
      · intro failure member
        have inFresh := (List.take_sublist _ _).subset member
        exact of_decide_eq_true (List.mem_filter.mp inFresh).2
      · intro failure member
        exact of_decide_eq_true (List.mem_filter.mp (sublist.subset member)).2
    · exact once.fresh projDir pending found

theorem ReadOnce.reads (once : ReadOnce owner reporter log) (projDir : String)
    (stdout : Except String (List Char)) :
    ReadOnce owner (reporter.step (.reads projDir stdout))
      (log ++ reporter.reports isWord (.reads projDir stdout)) := by
  rw [Reporter.step, Reporter.reports]
  split
  · rename_i failure rest more found
    have pending := once.fresh projDir _ found
    have new : failure.url ∉ reporter.reportedLogs :=
      pending.unreported failure List.mem_cons_self
    obtain ⟨notLater, distinct⟩ := List.nodup_cons.mp pending.distinct
    constructor
    · rw [List.map_append, List.map_singleton, List.nodup_append]
      refine ⟨once.once, List.nodup_singleton _, ?_⟩
      intro url before other last same
      rw [List.mem_singleton.mp last] at same
      exact new ((once.known _).mpr (same ▸ before))
    · intro url
      rw [Finset.mem_insert, once.known, List.map_append, List.map_singleton, List.mem_append,
        List.mem_singleton, or_comm]
    · intro report member
      rcases List.mem_append.mp member with before | last
      · exact once.ended report before
      · rw [List.mem_singleton.mp last]
        exact pending.ended failure List.mem_cons_self
    · intro other otherPending otherFound
      dsimp only at otherFound
      rw [Dict.get?_set] at otherFound
      split at otherFound
      · rename_i same
        cases otherFound
        refine ⟨distinct, ?_, ?_, fun later member => ?_⟩
        · intro later member
          rw [pending.own later (List.mem_cons_of_mem failure member), same]
        · intro later member reported
          rcases Finset.mem_insert.mp reported with url | before
          · exact notLater (url ▸ List.mem_map_of_mem member)
          · exact pending.unreported later (List.mem_cons_of_mem failure member) before
        · exact pending.ended later (List.mem_cons_of_mem failure member)
      · rename_i different
        have others := once.fresh other otherPending otherFound
        refine ⟨others.distinct, others.own, ?_, others.ended⟩
        intro later member reported
        rcases Finset.mem_insert.mp reported with url | before
        · have mine := pending.own failure List.mem_cons_self
          rw [← url, others.own later member] at mine
          exact different mine
        · exact others.unreported later member before
  · rw [List.append_nil]
    exact once

theorem ReadOnce.step (once : ReadOnce owner reporter log) {event : ReportEvent}
    (orderly : Orderly owner reporter event) :
    ReadOnce owner (reporter.step event) (log ++ reporter.reports isWord event) := by
  cases event with
  | arrives polled =>
      rw [Reporter.reports, List.append_nil]
      exact once.arrives orderly
  | reads projDir stdout => exact once.reads projDir stdout

end ReadOnce

theorem readOnce_new (owner : String → String) : ReadOnce owner Reporter.new [] where
  once := List.nodup_nil
  known := fun url => by simp [Reporter.new]
  ended := fun report member => by cases member
  fresh := fun projDir pending found => by simp [Reporter.new] at found

/-- The reports of a run. -/
def reportsOf (isWord : Char → Bool) (start : Reporter) (events : List ReportEvent) :
    List Reported :=
  emitted Reporter.step (Reporter.reports isWord) start events

theorem reportsOf_cons (isWord : Char → Bool) (start : Reporter) (event : ReportEvent)
    (rest : List ReportEvent) :
    reportsOf isWord start (event :: rest) =
      start.reports isWord event ++ reportsOf isWord (start.step event) rest :=
  rfl

theorem readOnce_run {owner : String → String} {events : List ReportEvent}
    (orderly : Along Reporter.step (Orderly owner) Reporter.new events) (isWord : Char → Bool) :
    ReadOnce owner (run Reporter.step Reporter.new events)
      (reportsOf isWord Reporter.new events) :=
  invariant_emitted_of_along (fun _ _ _ once allowed => once.step allowed) (readOnce_new owner)
    orderly

/-! ## What becomes of a failure -/

section Calls

variable {owner : String → String} {isWord : Char → Bool} {start : Reporter} {projDir : String}
  {pending : Pending} {events : List ReportEvent}

variable (isWord) in
/-- What a call has still to report is reported in order. -/
theorem reports_append_queue (found : start.calls.get? projDir = some pending)
    {event : ReportEvent} (alone : ∀ polled, event = .arrives polled → projDir ≠ polled.projDir) :
    ∃ left, (start.step event).calls.get? projDir = some left ∧
      pending.queue = ((start.reports isWord event).filter
        (·.projDir = projDir)).map Reported.failure ++ left.queue := by
  cases event with
  | arrives polled =>
      refine ⟨pending, ?_, rfl⟩
      rw [Reporter.step]
      dsimp only
      rw [Dict.get?_set, if_neg (alone polled rfl)]
      exact found
  | reads caller stdout =>
      rw [Reporter.step, Reporter.reports]
      split
      · rename_i failure rest more called
        by_cases same : projDir = caller
        · rw [← same, found] at called
          cases called
          refine ⟨⟨rest, more⟩, ?_, ?_⟩
          · dsimp only
            rw [same, Dict.get?_set_self]
          · rw [List.filter_cons_of_pos (by simp [same]), List.filter_nil]
            rfl
        · refine ⟨pending, ?_, ?_⟩
          · dsimp only
            rw [Dict.get?_set, if_neg same]
            exact found
          · rw [List.filter_cons_of_neg (by simp [Ne.symm same]), List.filter_nil]
            rfl
      · exact ⟨pending, found, rfl⟩

variable (isWord) in
/-- So are the failures that a call reports before the next response of its project. -/
theorem reportsOf_append_queue (found : start.calls.get? projDir = some pending)
    (alone : ∀ polled, .arrives polled ∈ events → projDir ≠ polled.projDir) :
    ∃ left, (run Reporter.step start events).calls.get? projDir = some left ∧
      pending.queue = ((reportsOf isWord start events).filter
        (·.projDir = projDir)).map Reported.failure ++ left.queue := by
  induction events generalizing start pending with
  | nil => exact ⟨pending, found, rfl⟩
  | cons event rest ih =>
      obtain ⟨next, nextFound, first⟩ := reports_append_queue isWord found fun polled same =>
        alone polled ((same : event = _) ▸ List.mem_cons_self)
      obtain ⟨left, final, others⟩ := ih nextFound
        fun polled member => alone polled (List.mem_cons_of_mem event member)
      refine ⟨left, final, ?_⟩
      rw [first, others, reportsOf_cons, List.filter_append, List.map_append, List.append_assoc]

variable (isWord) in
/-- A failure that a call has chosen is reported, or still to be reported. -/
theorem reported_or_queued (found : start.calls.get? projDir = some pending)
    (orderly : Along Reporter.step (Orderly owner) start events) {failure : Failure}
    (chosen : failure ∈ pending.queue) :
    failure ∈ (reportsOf isWord start events).map Reported.failure ∨
      ∃ left, (run Reporter.step start events).calls.get? projDir = some left ∧
        failure ∈ left.queue := by
  induction events generalizing start pending with
  | nil => exact Or.inr ⟨pending, found, chosen⟩
  | cons event rest ih =>
      obtain ⟨first, later⟩ := orderly
      have alone : ∀ polled, event = .arrives polled → projDir ≠ polled.projDir := by
        rintro polled rfl rfl
        rw [first.2.2 pending found] at chosen
        cases chosen
      obtain ⟨next, nextFound, split⟩ := reports_append_queue isWord found alone
      rw [split, List.mem_append] at chosen
      rw [run_cons, reportsOf_cons, List.map_append, List.mem_append]
      rcases chosen with now | queued
      · obtain ⟨report, member, same⟩ := List.mem_map.mp now
        have inReports := (List.mem_filter.mp member).1
        exact Or.inl (Or.inl (same ▸ List.mem_map_of_mem inReports))
      · rcases ih nextFound later queued with reported | left
        · exact Or.inl (Or.inr reported)
        · exact Or.inr left

end Calls

/-- The call that a response begins. -/
theorem found_arrives (polled : Polled) (reporter : Reporter) :
    (reporter.step (.arrives polled)).calls.get? polled.projDir =
      some ⟨(polled.fresh reporter.reportedLogs).take maxFailureReports,
        (polled.fresh reporter.reportedLogs).length - maxFailureReports⟩ :=
  Dict.get?_set_self _ _ _

/-- The calls of a project are done. -/
def Reporter.Idle (reporter : Reporter) (projDir : String) : Prop :=
  ∀ pending, reporter.calls.get? projDir = some pending → pending.queue = []

/-- What the reports of a run come to. -/
structure ReportsFailures (isWord : Char → Bool) (events : List ReportEvent) : Prop where
  once : ((reportsOf isWord Reporter.new events).map (·.failure.url)).Nodup
  ended : ∀ report ∈ reportsOf isWord Reporter.new events, report.failure.Ended
  capped : ∀ before polled during after,
    events = before ++ .arrives polled :: (during ++ after) →
      (∀ other, .arrives other ∈ during → polled.projDir ≠ other.projDir) →
        ((reportsOf isWord ((run Reporter.step Reporter.new before).step (.arrives polled))
          during).filter (·.projDir = polled.projDir)).length ≤ maxFailureReports
  complete : ∀ before polled after, events = before ++ .arrives polled :: after →
    (run Reporter.step Reporter.new events).Idle polled.projDir →
      ∀ failure ∈ polled.failed,
        failure.url ∈ (reportsOf isWord Reporter.new events).map (·.failure.url) ∨
          maxFailureReports <
            (polled.fresh (run Reporter.step Reporter.new before).reportedLogs).length

/-- In every order in which the responses of the projects arrive and their
calls report, the stdout of a failed attempt is read at most once, a call reads
only so many of them, and a failure is passed over only by a call that reads as
many as it may. -/
theorem failures_reported {owner : String → String} {events : List ReportEvent}
    (orderly : Along Reporter.step (Orderly owner) Reporter.new events)
    (isWord : Char → Bool) : ReportsFailures isWord events := by
  have final := readOnce_run orderly isWord
  refine ⟨final.once, final.ended, ?_, ?_⟩
  · rintro before polled during after rfl alone
    obtain ⟨left, _, split⟩ := reportsOf_append_queue isWord
      (found_arrives polled (run Reporter.step Reporter.new before)) alone
    have lengths := congrArg List.length split
    rw [List.length_append, List.length_map] at lengths
    dsimp only at lengths
    have cap := List.length_take_le maxFailureReports
      (polled.fresh (run Reporter.step Reporter.new before).reportedLogs)
    omega
  · rintro before polled after rfl idle failure failed
    set reached := run Reporter.step Reporter.new before with isReached
    obtain ⟨orderlyBefore, orderlyAfter⟩ := along_append.mp orderly
    have once := readOnce_run orderlyBefore isWord
    have whole : reportsOf isWord Reporter.new (before ++ .arrives polled :: after) =
        reportsOf isWord Reporter.new before ++
          reportsOf isWord (reached.step (.arrives polled)) after :=
      emitted_append _ _ _
    by_cases known : failure.url ∈ reached.reportedLogs
    · left
      rw [whole, List.map_append]
      exact List.mem_append_left _ ((once.known _).mp known)
    · have fresh : failure ∈ polled.fresh reached.reportedLogs :=
        List.mem_filter.mpr ⟨failed, decide_eq_true known⟩
      by_cases many : maxFailureReports < (polled.fresh reached.reportedLogs).length
      · exact Or.inr many
      · have chosen : failure ∈ (polled.fresh reached.reportedLogs).take maxFailureReports := by
          rwa [List.take_of_length_le (Nat.not_lt.mp many)]
        rcases reported_or_queued isWord (found_arrives polled reached)
          orderlyAfter.2 chosen with reported | ⟨pending, found, queued⟩
        · left
          rw [whole, List.map_append]
          obtain ⟨report, member, same⟩ := List.mem_map.mp reported
          exact List.mem_append_right _ (List.mem_map.mpr ⟨report, member, same ▸ rfl⟩)
        · rw [run_append, run_cons] at idle
          rw [idle pending found] at queued
          cases queued

/-- A response in which one job of a project has failed. -/
def oneFailed (projDir : String) : Polled where
  projDir := projDir
  result := Dict.empty.set ⟨1, "task", projDir⟩ { status := .failed, code := some 5 }
  logFile jobId := jobId.projDir ++ "/job_out.1.0.txt"

/-- Two projects in turn, one of which is polled once more. -/
def twoProjects : List ReportEvent :=
  [.arrives (oneFailed "a"), .arrives (oneFailed "b"), .reads "b" (.error "timed out"),
    .reads "a" (.ok "RuntimeError: gone".toList), .arrives (oneFailed "a"),
    .reads "a" (.error "timed out")]

theorem failures_reported_twoProjects :
    ReportsFailures Char.isAlpha twoProjects ∧
      (reportsOf Char.isAlpha Reporter.new twoProjects).map (·.failure.url) =
        ["b/job_out.1.0.txt", "a/job_out.1.0.txt"] := by
  constructor
  · have orderly : Along Reporter.step
        (Orderly fun url => if url = "a/job_out.1.0.txt" then "a" else "b") Reporter.new
        twoProjects := by
      refine ⟨⟨by decide, by decide, fun pending found => ?_⟩,
        ⟨by decide, by decide, fun pending found => ?_⟩, trivial, trivial,
        ⟨by decide, by decide, fun pending found => ?_⟩, trivial, trivial⟩
      · cases found
      · cases found
      · cases found
        rfl
    exact failures_reported orderly Char.isAlpha
  · decide

end DSProd.Crab
