import DSProd.Library.Dict
import DSProd.Library.Run

/-!
# Publishing by rename

`gfal_copy_safe` of `grid_tools.py` in its `copy_rename` mode, under the retries
of `repeat_until_success`: any number of calls on one target, one gfal command
a step, lost between any two of them.

The storage decides what each command reports, whether it takes effect when it
reports a failure, and what an upload that fails leaves behind.  A command that
answers tells the truth, an upload that succeeds is complete, and a rename
replaces its destination atomically.  Every call draws a suffix of its own.
-/

namespace DSProd.Storage

open DSProd.Library

universe u

variable {α : Type u}

/-- `output_file_tmp`: `copy_rename_tmp_suffix` is the prefix with what the call draws. -/
def tmpName (output suffix : String) : String :=
  output ++ ".dsprod-tmp-" ++ suffix

/-- What the storage does about a command. -/
structure Effect (α : Type u) where
  reports : Bool
  takesEffect : Bool := false
  leaves : Option α := none

/-- The commands of `download`, in order. -/
inductive PublishPhase where
  | checkTmp
  | removeTmp
  | copy
  | checkSum (expected : Nat)
  | rename
  | checkTarget
  deriving DecidableEq

/-- A call: the content of its input, the checksum it expects, the attempts
that are left after this one, and the command it is at. -/
structure Writer (α : Type u) where
  source : α
  expected : Option Nat
  retries : Nat
  phase : PublishPhase := .checkTmp
  deriving DecidableEq

/-- What becomes of a call. -/
inductive Outcome (α : Type u) where
  | goesOn (writer : Writer α)
  | returns
  | raises

/-- A step of a call: the files it leaves, what becomes of the call, and the
content it has finished uploading. -/
structure Move (α : Type u) where
  files : Dict String α
  outcome : Outcome α
  uploaded : Option α := none

/-- The call at its next command. -/
def Writer.to (writer : Writer α) (phase : PublishPhase) : Outcome α :=
  .goesOn { writer with phase }

namespace Writer

/-- `repeat_until_success`, after an attempt that raised. -/
def retry (writer : Writer α) : Outcome α :=
  match writer.retries with
  | 0 => .raises
  | retries + 1 => .goesOn { writer with retries, phase := .checkTmp }

/-- The command after an upload. -/
def verify (writer : Writer α) : Outcome α :=
  match writer.expected with
  | none => writer.to .rename
  | some expected => writer.to (.checkSum expected)

/-- What an upload that fails leaves. -/
def leave (files : Dict String α) (tmp : String) : Option α → Dict String α
  | none => files.pop tmp
  | some content => files.set tmp content

/-- `download`, one command a step. -/
def advance (adler32sum : α → Nat) (output tmp : String) (writer : Writer α)
    (files : Dict String α) (effect : Effect α) : Move α :=
  match writer.phase with
  | .checkTmp =>
      -- a stat that fails reads as absent
      if effect.reports && tmp ∈ files.keys then ⟨files, writer.to .removeTmp, none⟩
      else ⟨files, writer.to .copy, none⟩
  | .removeTmp =>
      ⟨if effect.takesEffect then files.pop tmp else files,
        if effect.reports then writer.to .copy else writer.retry, none⟩
  | .copy =>
      -- without `--force` an upload onto a file that is there fails
      if effect.reports && tmp ∉ files.keys then
        ⟨files.set tmp writer.source, writer.verify, some writer.source⟩
      else ⟨leave files tmp effect.leaves, writer.retry, none⟩
  | .checkSum expected =>
      let agrees := (files.get? tmp).any fun content => adler32sum content = expected
      ⟨files, if effect.reports && agrees then writer.to .rename else writer.retry, none⟩
  | .rename =>
      match files.get? tmp with
      | none => ⟨files, writer.retry, none⟩
      | some content =>
          ⟨if effect.takesEffect then (files.pop tmp).set output content else files,
            if effect.reports then writer.to .checkTarget else writer.retry, none⟩
  | .checkTarget =>
      ⟨files, if effect.reports && output ∈ files.keys then .returns else writer.retry, none⟩

end Writer

/-! ## Any number of calls -/

/-- The storage and the calls on it, by suffix; the calls that were made, and
the uploads that were finished, with their contents. -/
structure Publishing (α : Type u) where
  files : Dict String α
  writers : Dict String (Writer α)
  calls : List (String × α)
  finished : List (String × α)

/-- What happens: a call with its input, its checksum and `n_retries`, a
command of a call, or the loss of one. -/
inductive PublishEvent (α : Type u) where
  | call (suffix : String) (source : α) (expected : Option Nat) (nRetries : Nat)
  | act (suffix : String) (effect : Effect α)
  | crash (suffix : String)

/-- The calls when one of them has taken a step. -/
def Outcome.replace (writers : Dict String (Writer α)) (suffix : String) :
    Outcome α → Dict String (Writer α)
  | .goesOn writer => writers.set suffix writer
  | .returns => writers.pop suffix
  | .raises => writers.pop suffix

/-- The calls when one is made.  One that may make no attempt raises at once. -/
def enterWriter (writers : Dict String (Writer α)) (suffix : String) (source : α)
    (expected : Option Nat) : Nat → Dict String (Writer α)
  | 0 => writers
  | retries + 1 => writers.set suffix ⟨source, expected, retries, .checkTmp⟩

/-- One event.  A suffix is drawn once. -/
def publishStep (adler32sum : α → Nat) (output : String) (state : Publishing α) :
    PublishEvent α → Publishing α
  | .call suffix source expected nRetries =>
      if suffix ∈ state.calls.map Prod.fst then state
      else
        { state with
          calls := state.calls ++ [(suffix, source)]
          writers := enterWriter state.writers suffix source expected nRetries }
  | .act suffix effect =>
      match state.writers.get? suffix with
      | none => state
      | some writer =>
          let move := writer.advance adler32sum output (tmpName output suffix) state.files effect
          { state with
            files := move.files
            writers := move.outcome.replace state.writers suffix
            finished := state.finished ++ move.uploaded.toList.map fun content =>
              (suffix, content) }
  | .crash suffix => { state with writers := state.writers.pop suffix }

/-- A storage on which no call was made. -/
def Publishing.start (files : Dict String α) : Publishing α :=
  ⟨files, Dict.empty, [], []⟩

/-! ## Names -/

theorem tmpName_ne (output suffix : String) : tmpName output suffix ≠ output := by
  intro same
  have length := congrArg String.length same
  simp only [tmpName, String.length_append] at length
  have marked : ".dsprod-tmp-".length = 12 := rfl
  omega

theorem tmpName_injective {output first second : String}
    (same : tmpName output first = tmpName output second) : first = second := by
  have chars := congrArg String.toList same
  simp only [tmpName, String.toList_append] at chars
  exact String.toList_injective (List.append_cancel_left chars)

/-! ## One step of a call -/

/-- Whether the upload of the attempt is complete and not yet published. -/
def PublishPhase.Uploaded : PublishPhase → Prop
  | .checkSum _ => True
  | .rename => True
  | _ => False

/-- The call goes on with its input, at a command before the end of an upload. -/
def Writer.Restarts (writer : Writer α) (outcome : Outcome α) : Prop :=
  ∀ next, outcome = .goesOn next → next.source = writer.source ∧ ¬next.phase.Uploaded

theorem Writer.restarts_to (writer : Writer α) {phase : PublishPhase} (early : ¬phase.Uploaded) :
    writer.Restarts (writer.to phase) := by
  intro next same
  cases same
  exact ⟨rfl, early⟩

theorem Writer.restarts_retry (writer : Writer α) : writer.Restarts writer.retry := by
  intro next same
  unfold retry at same
  split at same
  · cases same
  · cases same
    exact ⟨rfl, id⟩

theorem Writer.restarts_ite (writer : Writer α) (phase : PublishPhase) (early : ¬phase.Uploaded)
    (passed : Bool) : writer.Restarts (if passed then writer.to phase else writer.retry) := by
  cases passed with
  | true => exact writer.restarts_to early
  | false => exact writer.restarts_retry

/-- What a step of a call does to the files: nothing, something to its own
temporary file, an upload there, or the rename. -/
inductive Steps (output tmp : String) (writer : Writer α) (files : Dict String α) :
    Move α → Prop where
  | idle {outcome : Outcome α}
      (goesOn : ∀ next, outcome = .goesOn next → next.source = writer.source ∧
        (next.phase.Uploaded → writer.phase.Uploaded)) :
      Steps output tmp writer files ⟨files, outcome, none⟩
  | clears (left : Option α) {outcome : Outcome α} (restarts : writer.Restarts outcome) :
      Steps output tmp writer files ⟨Writer.leave files tmp left, outcome, none⟩
  | uploads : Steps output tmp writer files
      ⟨files.set tmp writer.source, writer.verify, some writer.source⟩
  | renames {content : α} {outcome : Outcome α} (uploaded : writer.phase.Uploaded)
      (found : files.get? tmp = some content) (restarts : writer.Restarts outcome) :
      Steps output tmp writer files ⟨(files.pop tmp).set output content, outcome, none⟩

theorem Steps.idle_of_restarts {output tmp : String} {writer : Writer α} {files : Dict String α}
    {outcome : Outcome α} (restarts : writer.Restarts outcome) :
    Steps output tmp writer files ⟨files, outcome, none⟩ :=
  .idle fun next same => ⟨(restarts next same).1, fun uploaded =>
    absurd uploaded (restarts next same).2⟩

theorem Writer.steps_advance (adler32sum : α → Nat) (output tmp : String) (writer : Writer α)
    (files : Dict String α) (effect : Effect α) :
    Steps output tmp writer files (writer.advance adler32sum output tmp files effect) := by
  unfold advance
  cases isAt : writer.phase with
  | checkTmp =>
      simp only
      split
      · exact .idle_of_restarts (writer.restarts_to id)
      · exact .idle_of_restarts (writer.restarts_to id)
  | removeTmp =>
      have restarts := writer.restarts_ite .copy id effect.reports
      simp only
      split
      · exact .clears none restarts
      · exact .idle_of_restarts restarts
  | copy =>
      simp only
      split
      · exact .uploads
      · exact .clears effect.leaves writer.restarts_retry
  | checkSum expected =>
      simp only
      split
      · apply Steps.idle
        intro next same
        cases same
        exact ⟨rfl, fun _ => by rw [isAt]; trivial⟩
      · exact .idle_of_restarts writer.restarts_retry
  | rename =>
      have restarts := writer.restarts_ite .checkTarget id effect.reports
      simp only
      split
      · exact .idle_of_restarts writer.restarts_retry
      · rename_i content found
        split
        · exact .renames (by rw [isAt]; trivial) found restarts
        · exact .idle_of_restarts restarts
  | checkTarget =>
      simp only
      split
      · exact .idle fun next same => by cases same
      · exact .idle_of_restarts writer.restarts_retry

theorem get?_leave_of_ne {files : Dict String α} {tmp path : String} (left : Option α)
    (other : path ≠ tmp) : (Writer.leave files tmp left).get? path = files.get? path := by
  cases left with
  | none => rw [Writer.leave, Dict.get?_pop, if_neg other]
  | some content => rw [Writer.leave, Dict.get?_set, if_neg other]

section Steps

variable {output tmp : String} {writer : Writer α} {files : Dict String α} {move : Move α}

/-- A step of a call leaves all files but its temporary one and the target. -/
theorem Steps.others (steps : Steps output tmp writer files move) {path : String}
    (notTmp : path ≠ tmp) (notTarget : path ≠ output) :
    move.files.get? path = files.get? path := by
  cases steps with
  | idle goesOn => rfl
  | clears left restarts => exact get?_leave_of_ne left notTmp
  | uploads => rw [Dict.get?_set, if_neg notTmp]
  | renames uploaded found restarts =>
      rw [Dict.get?_set, if_neg notTarget, Dict.get?_pop, if_neg notTmp]

/-- A step of a call changes the target only to what the call has uploaded. -/
theorem Steps.target (steps : Steps output tmp writer files move) (notTmp : output ≠ tmp) :
    move.files.get? output = files.get? output ∨
      (writer.phase.Uploaded ∧ move.files.get? output = files.get? tmp ∧
        files.get? tmp ≠ none) := by
  cases steps with
  | idle goesOn => exact Or.inl rfl
  | clears left restarts => exact Or.inl (get?_leave_of_ne left notTmp)
  | uploads => exact Or.inl (by rw [Dict.get?_set, if_neg notTmp])
  | renames uploaded found restarts =>
      refine Or.inr ⟨uploaded, ?_, by simp [found]⟩
      rw [Dict.get?_set_self, found]

/-- A call that goes on to publish has its whole input under its own name. -/
theorem Steps.uploaded (steps : Steps output tmp writer files move) {next : Writer α}
    (goesOn : move.outcome = .goesOn next) (ready : next.phase.Uploaded) :
    (writer.phase.Uploaded ∧ move.files.get? tmp = files.get? tmp) ∨
      (move.files.get? tmp = some writer.source ∧ move.uploaded = some writer.source) := by
  cases steps with
  | idle keeps => exact Or.inl ⟨(keeps next goesOn).2 ready, rfl⟩
  | clears left restarts => exact absurd ready (restarts next goesOn).2
  | uploads => exact Or.inr ⟨Dict.get?_set_self _ _ _, rfl⟩
  | renames uploaded found restarts => exact absurd ready (restarts next goesOn).2

theorem Writer.source_of_verify {next : Writer α} (goesOn : writer.verify = .goesOn next) :
    next.source = writer.source := by
  unfold verify at goesOn
  split at goesOn
  · cases goesOn
    rfl
  · cases goesOn
    rfl

/-- A call goes on with its input. -/
theorem Steps.source (steps : Steps output tmp writer files move) {next : Writer α}
    (goesOn : move.outcome = .goesOn next) : next.source = writer.source := by
  cases steps with
  | idle keeps => exact (keeps next goesOn).1
  | clears left restarts => exact (restarts next goesOn).1
  | uploads => exact Writer.source_of_verify goesOn
  | renames uploaded found restarts => exact (restarts next goesOn).1

/-- What a call uploads is its input. -/
theorem Steps.uploads_source (steps : Steps output tmp writer files move) {content : α}
    (uploaded : move.uploaded = some content) : content = writer.source := by
  cases steps with
  | idle keeps => cases uploaded
  | clears left restarts => cases uploaded
  | uploads =>
      cases uploaded
      rfl
  | renames ready found restarts => cases uploaded

end Steps

/-! ## All calls -/

/-- What is true of a storage under calls: a call that is about to publish has
its whole input under its own name, and the target is as it was or as a call
has uploaded it. -/
structure Published (output : String) (initial : Option α) (state : Publishing α) : Prop where
  called : ∀ suffix writer, state.writers.get? suffix = some writer →
    (suffix, writer.source) ∈ state.calls
  ready : ∀ suffix writer, state.writers.get? suffix = some writer → writer.phase.Uploaded →
    state.files.get? (tmpName output suffix) = some writer.source ∧
      (suffix, writer.source) ∈ state.finished
  uploads : ∀ upload ∈ state.finished, upload ∈ state.calls
  target : state.files.get? output = initial ∨
    ∃ upload ∈ state.finished, state.files.get? output = some upload.2

theorem published_start (output : String) (files : Dict String α) :
    Published output (files.get? output) (Publishing.start files) where
  called := fun suffix writer known => by simp [Publishing.start] at known
  ready := fun suffix writer known => by simp [Publishing.start] at known
  uploads := fun _ member => absurd member List.not_mem_nil
  target := Or.inl rfl

/-- The calls after a step of one: the others are as they were. -/
theorem get?_replace {writers : Dict String (Writer α)} {suffix other : String}
    {outcome : Outcome α} {writer : Writer α}
    (known : (outcome.replace writers suffix).get? other = some writer) :
    (other = suffix ∧ outcome = .goesOn writer) ∨
      (other ≠ suffix ∧ writers.get? other = some writer) := by
  by_cases same : other = suffix
  · left
    cases outcome with
    | goesOn next =>
        rw [Outcome.replace, Dict.get?_set, if_pos same] at known
        cases known
        exact ⟨same, rfl⟩
    | returns =>
        rw [Outcome.replace, Dict.get?_pop, if_pos same] at known
        cases known
    | raises =>
        rw [Outcome.replace, Dict.get?_pop, if_pos same] at known
        cases known
  · right
    cases outcome with
    | goesOn next =>
        rw [Outcome.replace, Dict.get?_set, if_neg same] at known
        exact ⟨same, known⟩
    | returns =>
        rw [Outcome.replace, Dict.get?_pop, if_neg same] at known
        exact ⟨same, known⟩
    | raises =>
        rw [Outcome.replace, Dict.get?_pop, if_neg same] at known
        exact ⟨same, known⟩

/-- The calls after one is made: those before, and one at its beginning. -/
theorem get?_admit {writers : Dict String (Writer α)} {suffix other : String} {source : α}
    {expected : Option Nat} {nRetries : Nat} {writer : Writer α}
    (known : (enterWriter writers suffix source expected nRetries).get? other = some writer) :
    writers.get? other = some writer ∨
      (other = suffix ∧ writer.source = source ∧ writer.phase = .checkTmp) := by
  cases nRetries with
  | zero => exact Or.inl known
  | succ retries =>
      by_cases same : other = suffix
      · rw [enterWriter, Dict.get?_set, if_pos same] at known
        cases known
        exact Or.inr ⟨same, rfl, rfl⟩
      · rw [enterWriter, Dict.get?_set, if_neg same] at known
        exact Or.inl known

section Events

variable {adler32sum : α → Nat} {output : String} {initial : Option α} {state : Publishing α}

variable (adler32sum output) in
/-- The state after a step of a call. -/
theorem publishStep_act {suffix : String} {writer : Writer α} (effect : Effect α)
    (known : state.writers.get? suffix = some writer) :
    ∃ move, Steps output (tmpName output suffix) writer state.files move ∧
      publishStep adler32sum output state (.act suffix effect) =
        { state with
          files := move.files
          writers := move.outcome.replace state.writers suffix
          finished := state.finished ++ move.uploaded.toList.map fun content =>
            (suffix, content) } :=
  ⟨_, writer.steps_advance adler32sum output (tmpName output suffix) state.files effect, by
    simp only [publishStep, known]⟩

theorem publishStep_act_none {suffix : String} {effect : Effect α}
    (unknown : state.writers.get? suffix = none) :
    publishStep adler32sum output state (.act suffix effect) = state := by
  simp only [publishStep, unknown]

/-- A step of a call. -/
theorem Published.act (published : Published output initial state) (suffix : String)
    (effect : Effect α) :
    Published output initial (publishStep adler32sum output state (.act suffix effect)) := by
  cases known : state.writers.get? suffix with
  | none =>
      rw [publishStep_act_none known]
      exact published
  | some writer =>
      obtain ⟨move, steps, stepEq⟩ := publishStep_act adler32sum output effect known
      rw [stepEq]
      constructor
      · intro other next found
        rcases get?_replace found with ⟨rfl, goesOn⟩ | ⟨_, same⟩
        · rw [steps.source goesOn]
          exact published.called _ _ known
        · exact published.called _ _ same
      · intro other next found uploaded
        rcases get?_replace found with ⟨rfl, goesOn⟩ | ⟨different, same⟩
        · rw [steps.source goesOn]
          rcases steps.uploaded goesOn uploaded with ⟨already, unchanged⟩ | ⟨now, logged⟩
          · obtain ⟨present, member⟩ := published.ready _ _ known already
            exact ⟨unchanged.trans present, List.mem_append_left _ member⟩
          · refine ⟨now, List.mem_append_right _ ?_⟩
            simp [logged]
        · obtain ⟨present, member⟩ := published.ready _ _ same uploaded
          refine ⟨?_, List.mem_append_left _ member⟩
          rw [← present]
          apply steps.others
          · exact fun names => different (tmpName_injective names)
          · exact tmpName_ne output other
      · intro upload member
        rcases List.mem_append.mp member with old | new
        · exact published.uploads upload old
        · obtain ⟨content, uploaded, rfl⟩ := List.mem_map.mp new
          rw [steps.uploads_source (Option.mem_toList.mp uploaded)]
          exact published.called _ _ known
      · rcases steps.target (tmpName_ne output suffix).symm with same | ⟨uploaded, moved, _⟩
        · rcases published.target with untouched | ⟨upload, member, there⟩
          · exact Or.inl (same.trans untouched)
          · exact Or.inr ⟨upload, List.mem_append_left _ member, same.trans there⟩
        · obtain ⟨present, member⟩ := published.ready _ _ known uploaded
          exact Or.inr ⟨_, List.mem_append_left _ member, moved.trans present⟩

/-- A call that is made. -/
theorem Published.call (published : Published output initial state) (suffix : String) (source : α)
    (expected : Option Nat) (nRetries : Nat) :
    Published output initial
      (publishStep adler32sum output state (.call suffix source expected nRetries)) := by
  unfold publishStep
  simp only
  split
  · exact published
  · constructor
    · intro other writer known
      rcases get?_admit known with old | ⟨rfl, sameSource, _⟩
      · exact List.mem_append_left _ (published.called other writer old)
      · rw [sameSource]
        exact List.mem_append_right _ List.mem_cons_self
    · intro other writer known uploaded
      rcases get?_admit known with old | ⟨_, _, begins⟩
      · exact published.ready other writer old uploaded
      · rw [begins] at uploaded
        exact absurd uploaded id
    · exact fun upload member => List.mem_append_left _ (published.uploads upload member)
    · exact published.target

/-- A call that is lost. -/
theorem Published.crash (published : Published output initial state) (suffix : String) :
    Published output initial (publishStep adler32sum output state (.crash suffix)) where
  called := fun other writer known => by
    rw [publishStep, Dict.get?_pop] at known
    split at known
    · cases known
    · exact published.called other writer known
  ready := fun other writer known => by
    rw [publishStep, Dict.get?_pop] at known
    split at known
    · cases known
    · exact published.ready other writer known
  uploads := published.uploads
  target := published.target

/-- Any event. -/
theorem Published.step (published : Published output initial state) (event : PublishEvent α) :
    Published output initial (publishStep adler32sum output state event) := by
  cases event with
  | call suffix source expected nRetries => exact published.call suffix source expected nRetries
  | act suffix effect => exact published.act suffix effect
  | crash suffix => exact published.crash suffix

/-- Only a step of a call changes a file. -/
theorem files_of_not_act {event : PublishEvent α}
    (noStep : ∀ suffix effect, event ≠ .act suffix effect) :
    (publishStep adler32sum output state event).files = state.files := by
  cases event with
  | call suffix source expected nRetries =>
      simp only [publishStep]
      split
      · rfl
      · rfl
  | act suffix effect => exact absurd rfl (noStep suffix effect)
  | crash suffix => rfl

variable (adler32sum) in
/-- An event changes the target only to what one of the calls has uploaded. -/
theorem Published.target_step (published : Published output initial state)
    (event : PublishEvent α) :
    (publishStep adler32sum output state event).files.get? output = state.files.get? output ∨
      ∃ suffix effect content, event = .act suffix effect ∧
        (suffix, content) ∈ state.finished ∧
        state.files.get? (tmpName output suffix) = some content ∧
        (publishStep adler32sum output state event).files.get? output = some content := by
  cases event with
  | call suffix source expected nRetries =>
      left
      rw [files_of_not_act fun _ _ same => by cases same]
  | crash suffix => exact Or.inl rfl
  | act suffix effect =>
      cases known : state.writers.get? suffix with
      | none =>
          rw [publishStep_act_none known]
          exact Or.inl rfl
      | some writer =>
          obtain ⟨move, steps, stepEq⟩ := publishStep_act adler32sum output effect known
          rw [stepEq]
          rcases steps.target (tmpName_ne output suffix).symm with same | ⟨uploaded, moved, _⟩
          · exact Or.inl same
          · obtain ⟨present, member⟩ := published.ready _ _ known uploaded
            exact Or.inr ⟨suffix, effect, _, rfl, member, present, moved.trans present⟩

/-- An event leaves the temporary file of every call that takes no step. -/
theorem tmp_step {suffix : String} {event : PublishEvent α}
    (others : ∀ effect, event ≠ .act suffix effect) :
    (publishStep adler32sum output state event).files.get? (tmpName output suffix) =
      state.files.get? (tmpName output suffix) := by
  cases event with
  | call other source expected nRetries =>
      rw [files_of_not_act fun _ _ same => by cases same]
  | crash other => rfl
  | act other effect =>
      cases known : state.writers.get? other with
      | none => rw [publishStep_act_none known]
      | some writer =>
          obtain ⟨move, steps, stepEq⟩ := publishStep_act adler32sum output effect known
          rw [stepEq]
          apply steps.others
          · intro names
            exact others effect (by rw [tmpName_injective names])
          · exact tmpName_ne output suffix

end Events

/-- Whatever happens to any number of calls on a target: it is at every moment
as it was before or as some call finished uploading its input; each event, that
a call raises included, leaves it as it is or publishes what the call that steps
has uploaded under its own name; and no event touches the temporary file of
another call. -/
theorem publishing_atomic (adler32sum : α → Nat) (output : String) (files : Dict String α)
    (events : List (PublishEvent α)) (event : PublishEvent α) :
    let before := run (publishStep adler32sum output) (.start files) events
    let after := publishStep adler32sum output before event
    (before.files.get? output = files.get? output ∨
        ∃ upload ∈ before.finished, before.files.get? output = some upload.2) ∧
      (∀ upload ∈ before.finished, upload ∈ before.calls) ∧
      (before.files.get? output ≠ none → after.files.get? output ≠ none) ∧
      (after.files.get? output = before.files.get? output ∨
        ∃ suffix effect content, event = .act suffix effect ∧
          (suffix, content) ∈ before.finished ∧
          before.files.get? (tmpName output suffix) = some content ∧
          after.files.get? output = some content) ∧
      ∀ suffix, (∀ effect, event ≠ .act suffix effect) →
        after.files.get? (tmpName output suffix) =
          before.files.get? (tmpName output suffix) := by
  intro before after
  have published : Published output (files.get? output) before :=
    invariant_run_of_forall (fun _ event published => published.step event)
      (published_start output files) events
  have targeted := published.target_step adler32sum event
  refine ⟨published.target, published.uploads, ?_, targeted, fun suffix others => tmp_step others⟩
  intro present
  rcases targeted with same | ⟨suffix, effect, content, _, _, _, moved⟩
  · rw [same]
    exact present
  · rw [moved]
    exact Option.some_ne_none content

/-- A call whose check of the renamed target fails uploads again, with the
target in place, and raises when that upload fails. -/
example :
    let does := fun reports =>
      PublishEvent.act "1-a" ({ reports, takesEffect := true } : Effect Nat)
    let final := run (publishStep id "nano.root") (.start (Dict.ofList [("nano.root", 1)]))
      [.call "1-a" 2 none 2, does true, does true, does true, does false, does true, does false]
    final.files.get? "nano.root" = some 2 ∧ final.writers.keys = [] := by
  decide +kernel

end DSProd.Storage
