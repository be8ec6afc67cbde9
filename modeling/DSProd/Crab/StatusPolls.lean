import DSProd.Crab.Harvest
import DSProd.Library.Text
import Mathlib.Data.Finset.Card

/-!
# Polling the CRAB tasks

`query` of `DSProdCrabJobManager`, with `parse_query_output` and the five ways a
poll of one project ends: it is refused, it waits for a scheduler, it could not
be submitted, it stays unreadable, or law's result is there.  What law itself
reads out of a status response is a parameter.
-/

namespace DSProd.Crab

open DSProd.Library
open DSProd.Watchdog

/-! ## What law reads -/

/-- The patterns and functions of law that the job manager uses. -/
structure Law where
  /-- The value of `query_server_status_cre` on a line. -/
  serverStatus : String → Option String
  /-- The value of `query_server_failure_cre` on a line. -/
  serverFailure : String → Option String
  /-- Whether `query_scheduler_status_cre` matches a line. -/
  schedulerStatus : String → Bool
  /-- Whether `query_json_line_cre` matches a line. -/
  jsonLine : String → Bool
  /-- `parse_query_output`, from a response, the project and the jobs asked for. -/
  parseQueryOutput : String → String → Option (List JobId) → Except String (Dict JobId StatusEntry)
  /-- `_job_ids_from_proj_dir`. -/
  jobIdsFromProjDir : String → List JobId

/-- What law gets out of one attempt to query a project: an error of its own, or
a response it parses. -/
inductive Attempt where
  | error (message : String)
  | response (out : String)

/-! ## Reading a response -/

/-- `server_status`. -/
def serverStatus (law : Law) (out : String) : Option String :=
  ((Text.lines out).findSome? fun line => law.serverStatus (Text.strip line)).map Text.strip

/-- `server_state`. -/
def serverState (law : Law) (out : String) : String :=
  (Text.strip (Text.before " on command " ((serverStatus law out).getD ""))).toUpper

/-- `server_warnings`. -/
def serverWarnings (out : String) : List String :=
  ((Text.lines out).filter fun line => (Text.strip line).startsWith "Warning:").map fun line =>
    Text.strip (":".intercalate ((line.splitOn ":").drop 1))

/-- `server_failure`. -/
def serverFailure (law : Law) (out : String) : Option String :=
  ((Text.lines out).findSome? law.serverFailure).map Text.strip

/-- `publishes_per_job_states`. -/
def publishesPerJobStates (law : Law) (out : String) : Bool :=
  (Text.lines out).any law.schedulerStatus && (Text.lines out).any law.jsonLine

/-- `terminal_server_states`. -/
def terminalServerStates : List String :=
  ["SUBMITREFUSED"]

/-- `failed_server_states`. -/
def failedServerStates : List String :=
  ["SUBMITFAILED"]

/-- `pending_server_states`. -/
def pendingServerStates : List String :=
  ["WAITING"]

/-- `CrabTaskRefused`. -/
structure CrabTaskRefused where
  state : String
  warnings : List String
  projDir : String

/-- The text of a `CrabTaskRefused`. -/
def CrabTaskRefused.text (exc : CrabTaskRefused) : String :=
  let said := "; ".intercalate exc.warnings
  "the CRAB server refused " ++ Text.basename exc.projDir ++ " (" ++ exc.state ++ "): " ++
    if said = "" then "no reason given by the server" else said

/-- What parsing a response raises. -/
inductive ParseError where
  | refused (exc : CrabTaskRefused)
  | notScheduledYet (state : String)
  | submitFailed (failure : Option String) (jobs : Dict JobId StatusEntry)
  | other (message : String)

/-- The error law raised, with the head of what it read. -/
def withHead (exc out : String) : String :=
  let head :=
    (((Text.lines out).take 12).filter fun line => !line.startsWith "\x7b").map (Text.take 200)
  let shown := "\n      ".intercalate head
  exc ++ "\n    first lines of what crab returned (" ++ toString out.length ++ " bytes):\n      " ++
    if shown = "" then "<no output>" else shown

/-- `parse_query_output`. -/
def parseQueryOutput (law : Law) (out projDir : String) (jobIds : Option (List JobId)) :
    Except ParseError (Dict JobId StatusEntry) :=
  let state := serverState law out
  match law.parseQueryOutput out projDir jobIds with
  | .error exc =>
      if terminalServerStates.contains state then
        .error (.refused ⟨state, serverWarnings out, projDir⟩)
      else if pendingServerStates.contains state then .error (.notScheduledYet state)
      else .error (.other (withHead exc out))
  | .ok result =>
      if publishesPerJobStates law out then .ok result
      else if pendingServerStates.contains state then .error (.notScheduledYet state)
      else if failedServerStates.contains state then
        .error (.submitFailed (serverFailure law out) result)
      else .ok result

/-! ## Asking -/

/-- How a project answers a poll, once the query has been retried. -/
inductive Answer where
  | refused (exc : CrabTaskRefused)
  | waiting (state : String)
  | submitFailed (failure : Option String) (jobs : Dict JobId StatusEntry)
  | unreadable (lastError : String)
  | parsed (result : Dict JobId StatusEntry)

/-- law's `query`: what one attempt raises or returns. -/
def lawQuery (law : Law) (projDir : String) (jobIds : Option (List JobId)) :
    Attempt → Except ParseError (Dict JobId StatusEntry)
  | .error message => .error (.other message)
  | .response out => parseQueryOutput law out projDir jobIds

/-- The retry loop of `query`, with some attempts left. -/
def ask (law : Law) (projDir : String) (jobIds : Option (List JobId)) (attempts : Nat → Attempt) :
    (left : Nat) → (made : Nat) → (lastError : String) → Answer
  | 0, _, lastError => .unreadable lastError
  | left + 1, made, _ =>
      match lawQuery law projDir jobIds (attempts made) with
      | .ok result => .parsed result
      | .error (.refused exc) => .refused exc
      | .error (.notScheduledYet state) => .waiting state
      | .error (.submitFailed failure jobs) => .submitFailed failure jobs
      | .error (.other message) =>
          if terminalServerStates.contains (serverState law message) then
            .refused ⟨serverState law message, serverWarnings message, projDir⟩
          else ask law projDir jobIds attempts left (made + 1) message

/-- `query_retries`. -/
def queryRetries : Nat :=
  3

/-! ## Counting -/

/-- `max_unreadable_polls`. -/
def maxUnreadablePolls : Nat :=
  10

/-- `max_unscheduled_polls`. -/
def maxUnscheduledPolls : Nat :=
  60

/-- `max_refused_submissions`. -/
def maxRefusedSubmissions : Nat :=
  2

/-- `max_failed_submissions`. -/
def maxFailedSubmissions : Nat :=
  2

/-- The job manager: what it counts of the polls, why the run must stop, the
site list it drops when a submission is refused, and what it harvests. -/
structure Poller where
  unreadable : Dict String Nat
  unscheduled : Dict String Nat
  submittedProjects : Finset String
  refusedProjects : Finset String
  failedSubmissions : Dict String (Option String)
  stopReason : Option String
  siteCachePath : Option String
  harvester : Harvester

/-- A poll of one project: the jobs asked for, what law gets of each attempt,
and the clock. -/
structure Poll where
  projDir : String
  jobIds : Option (List JobId)
  attempts : Nat → Attempt
  clock : ℚ

/-- The jobs a poll asks for. -/
def Poll.asked (law : Law) (poll : Poll) : List JobId :=
  poll.jobIds.getD (law.jobIdsFromProjDir poll.projDir)

/-- One status for each of some jobs. -/
def allWith (jobIds : List JobId) (entry : StatusEntry) : Dict JobId StatusEntry :=
  Dict.ofList (jobIds.map fun jobId => (jobId, entry))

/-- `_refusal_report`. -/
def refusalReport (poller : Poller) (exc : CrabTaskRefused) (ours : Bool) : String :=
  let whose :=
    if ours then "this submission"
    else "a submission left by an earlier run (nothing this run sent)"
  let said := if exc.warnings = [] then ["<the server gave no reason>"] else exc.warnings
  let sites :=
    match poller.siteCachePath with
    | none => []
    | some path =>
        if path = "" then []
        else
          ["  sites:    computed from " ++ path ++
            ", now dropped so the next submission re-reads CRIC"]
  "\n".intercalate
    (["the CRAB server refused " ++ whose ++ " (" ++ exc.state ++
        "). It will never run, so its jobs are reported failed and law will submit them as a " ++
        "new task.",
      "  project:  " ++ exc.projDir] ++
    said.map (fun warning => "  server:   " ++ warning) ++ sites ++
    ["  check:    the whitelist must contain only CMS Processing Site Names -- CRIC " ++
      "'?json&preset=site-names', rows with type 'psn'"])

/-- `_refused`. -/
def refused (law : Law) (poller : Poller) (exc : CrabTaskRefused) (poll : Poll) :
    Dict JobId StatusEntry × Poller :=
  let ours : Bool := poll.projDir ∈ poller.submittedProjects
  let projects :=
    if ours then insert poll.projDir poller.refusedProjects else poller.refusedProjects
  (allWith (poll.asked law) { status := .failed, error := some exc.text },
    { poller with
      unreadable := poller.unreadable.pop poll.projDir
      refusedProjects := projects
      stopReason :=
        if maxRefusedSubmissions ≤ projects.card then
          some (toString projects.card ++
            " submissions made by this run have been refused by the server, so the next one " ++
            "would be too: this is a configuration fault, not bad luck.\n" ++
            refusalReport poller exc ours)
        else poller.stopReason })

/-- `_not_scheduled_yet`. -/
def notScheduledYet (law : Law) (poller : Poller) (state : String) (poll : Poll) :
    Dict JobId StatusEntry × Poller :=
  let n := poller.unscheduled.getD poll.projDir 0 + 1
  (allWith (poll.asked law) { status := .pending },
    { poller with
      unreadable := poller.unreadable.pop poll.projDir
      unscheduled := poller.unscheduled.set poll.projDir n
      stopReason :=
        if maxUnscheduledPolls < n then
          some (Text.basename poll.projDir ++ " has been " ++ state ++ " for " ++ toString n ++
            " consecutive polls without reaching a scheduler. The CRAB server accepted it, so " ++
            "this is not a configuration fault; the TaskWorker is the place to look.")
        else poller.stopReason })

/-- `_submit_failed`. -/
def submitFailed (poller : Poller) (failure : Option String) (poll : Poll) : Poller :=
  if poll.projDir ∉ poller.submittedProjects then poller
  else
    let failed := poller.failedSubmissions.set poll.projDir failure
    let said := "\n".intercalate (failed.items.map fun item =>
      "  " ++ Text.basename item.1 ++ ": " ++
        match item.2 with
        | none | some "" => "no failure message from the server"
        | some message => message)
    { poller with
      failedSubmissions := failed
      stopReason :=
        if maxFailedSubmissions ≤ failed.size then
          some (toString failed.size ++ " submissions made by this run have failed on the CRAB " ++
            "server (SUBMITFAILED), so whatever failed them is still there, and each further " ++
            "task would spend a retry of every branch in it. The server said:\n" ++ said)
        else poller.stopReason }

/-- The end of `query` with a result in hand. -/
def resultRead (poller : Poller) (poll : Poll) (result : Dict JobId StatusEntry) :
    Dict JobId StatusEntry × Poller :=
  let digested := digest poller.harvester ⟨poll.projDir, result, poll.clock⟩
  (digested.2,
    { poller with
      unreadable := poller.unreadable.pop poll.projDir
      unscheduled := poller.unscheduled.pop poll.projDir
      harvester := digested.1 })

/-- The end of `query` after the last attempt. -/
def unreadableAgain (law : Law) (poller : Poller) (lastError : String) (poll : Poll) :
    Except String (Dict JobId StatusEntry) × Poller :=
  let n := poller.unreadable.getD poll.projDir 0 + 1
  (if maxUnreadablePolls < n then
      .error ("the status of " ++ Text.basename poll.projDir ++ " has been unreadable for " ++
        toString n ++ " consecutive polls; last error: " ++ lastError)
    else .ok (allWith (poll.asked law) { status := .pending }),
    { poller with unreadable := poller.unreadable.set poll.projDir n })

/-- The answer of a project to a poll. -/
def Poll.answer (law : Law) (poll : Poll) : Answer :=
  ask law poll.projDir poll.jobIds poll.attempts (queryRetries + 1) 0 "None"

/-- `query`: the statuses it returns or the error it raises, and the state it
leaves. -/
def query (law : Law) (poller : Poller) (poll : Poll) :
    Except String (Dict JobId StatusEntry) × Poller :=
  match poll.answer law with
  | .refused exc =>
      let ended := refused law poller exc poll
      (.ok ended.1, ended.2)
  | .waiting state =>
      let ended := notScheduledYet law poller state poll
      (.ok ended.1, ended.2)
  | .submitFailed failure jobs =>
      let ended := resultRead (submitFailed poller failure poll) poll jobs
      (.ok ended.1, ended.2)
  | .parsed result =>
      let ended := resultRead poller poll result
      (.ok ended.1, ended.2)
  | .unreadable lastError => unreadableAgain law poller lastError poll

/-- `submit`: the projects of the jobs law submitted are those of this run. -/
def submitted (poller : Poller) (jobIds : List JobId) : Poller :=
  { poller with
    submittedProjects := poller.submittedProjects ∪
      ((jobIds.map JobId.projDir).filter (· ≠ "")).toFinset }

/-- A call on the job manager that the counts depend on. -/
inductive PollEvent where
  | submit (jobIds : List JobId)
  | query (poll : Poll)

/-- The state a call leaves. -/
def Poller.step (law : Law) (poller : Poller) : PollEvent → Poller
  | .submit jobIds => submitted poller jobIds
  | .query poll => (query law poller poll).2

/-- The job manager of a new driver. -/
def Poller.new (siteCachePath : Option String) (harvester : Harvester) : Poller :=
  ⟨Dict.empty, Dict.empty, ∅, ∅, Dict.empty, none, siteCachePath, harvester⟩

end DSProd.Crab
