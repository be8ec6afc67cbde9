import DSProd.Storage.Publishing

/-!
# Verified publishing

`gfal_copy_safe` in its `copy_rename` mode renames an upload onto its target
after it has compared the checksums, provided that it has one to compare with.
The checksum of the input comes from `gfal-stat` and `gfal-sum`, and a failure
of either is swallowed: then the upload is published as it is.

An upload that reports success may have left other bytes here.  What else a
command does is as in the model of publishing.
-/

namespace DSProd.Storage

open DSProd.Library

/-! ## Checksums -/

/-- The content of a file. -/
abbrev Bytes := List UInt8

/-- The two sums of adler32 after another byte. -/
def adlerStep (sums : Nat × Nat) (byte : UInt8) : Nat × Nat :=
  let low := (sums.1 + byte.toNat) % 65521
  (low, (sums.2 + low) % 65521)

/-- `adler32`. -/
def adler32 (data : Bytes) : Nat :=
  let sums := data.foldl adlerStep (1, 0)
  sums.2 * 65536 + sums.1

/-! ## A call -/

/-- Whether the two commands about the input answer: `gfal-stat`, with a type
that can be read, and `gfal-sum`. -/
structure InputAnswers where
  stat : Bool
  sum : Bool
  deriving DecidableEq

/-- `expected_adler32sum` of a regular file, where the caller gives none. -/
def expectedAdler32sum (answers : InputAnswers) (source : Bytes) : Option Nat :=
  if answers.stat then
    if answers.sum then some (adler32 source) else none
  else none

/-- `download`, one command a step, where an upload that reports success leaves
any bytes. -/
def Writer.advanceUnreliable (output tmp : String) (writer : Writer Bytes)
    (files : Dict String Bytes) (effect : Effect Bytes) : Move Bytes :=
  match writer.phase with
  | .copy =>
      if effect.reports && tmp ∉ files.keys then
        ⟨leave files tmp effect.leaves, writer.verify, effect.leaves⟩
      else ⟨leave files tmp effect.leaves, writer.retry, none⟩
  | _ => writer.advance adler32 output tmp files effect

/-- A call of `gfal_copy_safe`: the files, and what has become of the call. -/
structure CopyCall where
  files : Dict String Bytes
  outcome : Outcome Bytes

/-- `gfal_copy_safe` once it knows the checksum to expect.  With no attempt to
make it raises. -/
def gfalCopySafe (files : Dict String Bytes) (source : Bytes) (expected : Option Nat) :
    Nat → CopyCall
  | 0 => ⟨files, .raises⟩
  | retries + 1 => ⟨files, .goesOn ⟨source, expected, retries, .checkTmp⟩⟩

/-- One command of a call that has not ended. -/
def CopyCall.step (output tmp : String) (call : CopyCall) (effect : Effect Bytes) : CopyCall :=
  match call.outcome with
  | .goesOn writer =>
      let move := writer.advanceUnreliable output tmp call.files effect
      ⟨move.files, move.outcome⟩
  | .returns => call
  | .raises => call

/-- A target is as it was, or has the checksum of the input. -/
def Verified (source : Bytes) (before after : Option Bytes) : Prop :=
  after = before ∨ ∃ content, after = some content ∧ adler32 content = adler32 source

/-- Whatever its commands do and wherever it is lost, a call changes its target
only to what has the checksum of the input. -/
def PublishesVerified (files : Dict String Bytes) (output suffix : String) (source : Bytes)
    (answers : InputAnswers) (nRetries : Nat) : Prop :=
  ∀ effects : List (Effect Bytes),
    Verified source (files.get? output)
      ((run (CopyCall.step output (tmpName output suffix))
        (gfalCopySafe files source (expectedAdler32sum answers source) nRetries)
        effects).files.get? output)

/-! ## With a checksum to expect -/

section Expecting

variable {output tmp : String} {source : Bytes} {files : Dict String Bytes}

/-- What a phase has established about the upload. -/
def PublishPhase.Established (phase : PublishPhase) (source : Bytes) (upload : Option Bytes) :
    Prop :=
  match phase with
  | .checkSum expected => expected = adler32 source
  | .rename => ∀ content, upload = some content → adler32 content = adler32 source
  | _ => True

/-- A call that goes on expects the checksum of the input, and renames nothing else. -/
def Expects (source : Bytes) (tmp : String) (files : Dict String Bytes) (outcome : Outcome Bytes) :
    Prop :=
  ∀ writer, outcome = .goesOn writer → writer.expected = some (adler32 source) ∧
    writer.phase.Established source (files.get? tmp)

theorem expects_retry {writer : Writer Bytes} (expected : writer.expected = some (adler32 source)) :
    Expects source tmp files writer.retry := by
  intro next goesOn
  unfold Writer.retry at goesOn
  split at goesOn
  · cases goesOn
  · cases goesOn
    exact ⟨expected, trivial⟩

theorem expects_to {writer : Writer Bytes} {phase : PublishPhase}
    (expected : writer.expected = some (adler32 source))
    (established : phase.Established source (files.get? tmp)) :
    Expects source tmp files (writer.to phase) := by
  intro next goesOn
  cases goesOn
  exact ⟨expected, established⟩

theorem expects_ite {writer : Writer Bytes} {phase : PublishPhase} (passed : Bool)
    (expected : writer.expected = some (adler32 source))
    (established : passed = true → phase.Established source (files.get? tmp)) :
    Expects source tmp files (if passed then writer.to phase else writer.retry) := by
  cases passed with
  | true => exact expects_to expected (established rfl)
  | false => exact expects_retry expected

/-- A command of a call that expects the checksum of the input changes the
target only to what has it. -/
theorem verified_advance {writer : Writer Bytes} {before : Option Bytes} (notTmp : output ≠ tmp)
    (expects : Expects source tmp files (.goesOn writer))
    (verified : Verified source before (files.get? output)) (effect : Effect Bytes) :
    Verified source before
        ((writer.advanceUnreliable output tmp files effect).files.get? output) ∧
      Expects source tmp (writer.advanceUnreliable output tmp files effect).files
        (writer.advanceUnreliable output tmp files effect).outcome := by
  obtain ⟨expected, established⟩ := expects writer rfl
  have kept : ∀ left, Verified source before ((Writer.leave files tmp left).get? output) := by
    intro left
    rw [get?_leave_of_ne left notTmp]
    exact verified
  unfold Writer.advanceUnreliable Writer.advance
  cases isAt : writer.phase with
  | checkTmp =>
      simp only
      split
      · exact ⟨verified, expects_to expected trivial⟩
      · exact ⟨verified, expects_to expected trivial⟩
  | removeTmp =>
      simp only
      constructor
      · split
        · exact kept none
        · exact verified
      · exact expects_ite _ expected fun _ => trivial
  | copy =>
      simp only
      split
      · apply And.intro (kept effect.leaves)
        rw [Writer.verify, expected]
        exact expects_to expected rfl
      · exact ⟨kept effect.leaves, expects_retry expected⟩
  | checkSum sum =>
      rw [isAt] at established
      have sums : sum = adler32 source := established
      simp only
      apply And.intro verified
      apply expects_ite _ expected
      intro agrees content found
      rw [found, Bool.and_eq_true, Option.any_some, decide_eq_true_eq] at agrees
      exact agrees.2.trans sums
  | rename =>
      rw [isAt] at established
      simp only
      split
      · exact ⟨verified, expects_retry expected⟩
      · rename_i content found
        constructor
        · simp only
          split
          · exact Or.inr ⟨content, Dict.get?_set_self _ _ _, established content found⟩
          · exact verified
        · exact expects_ite _ expected fun _ => trivial
  | checkTarget =>
      simp only
      apply And.intro verified
      split
      · exact fun next goesOn => by cases goesOn
      · exact expects_retry expected

/-- So does the whole call. -/
theorem verified_of_expected (notTmp : output ≠ tmp) (nRetries : Nat)
    (effects : List (Effect Bytes)) :
    Verified source (files.get? output)
      ((run (CopyCall.step output tmp)
        (gfalCopySafe files source (some (adler32 source)) nRetries) effects).files.get?
          output) := by
  have keeps : ∀ (call : CopyCall) (effect : Effect Bytes),
      Verified source (files.get? output) (call.files.get? output) ∧
          Expects source tmp call.files call.outcome →
        Verified source (files.get? output) ((call.step output tmp effect).files.get? output) ∧
          Expects source tmp (call.step output tmp effect).files
            (call.step output tmp effect).outcome := by
    rintro ⟨current, outcome⟩ effect ⟨verified, expects⟩
    cases outcome with
    | goesOn writer => exact verified_advance notTmp expects verified effect
    | returns => exact ⟨verified, expects⟩
    | raises => exact ⟨verified, expects⟩
  have initially : Verified source (files.get? output)
        ((gfalCopySafe files source (some (adler32 source)) nRetries).files.get? output) ∧
      Expects source tmp (gfalCopySafe files source (some (adler32 source)) nRetries).files
        (gfalCopySafe files source (some (adler32 source)) nRetries).outcome := by
    cases nRetries with
    | zero => exact ⟨Or.inl rfl, fun writer goesOn => by cases goesOn⟩
    | succ retries =>
        apply And.intro (Or.inl rfl)
        intro writer goesOn
        cases goesOn
        exact ⟨rfl, trivial⟩
  exact (invariant_run_of_forall keeps initially effects).1

end Expecting

/-! ## Without one -/

/-- Some content is neither that of the target nor of the checksum of the input. -/
theorem exists_corrupted (source : Bytes) (target : Option Bytes) :
    ∃ content, adler32 content ≠ adler32 source ∧ target ≠ some content := by
  by_contra none
  have either : ∀ content, adler32 content = adler32 source ∨ target = some content := by
    intro content
    by_contra neither
    rw [not_or] at neither
    exact none ⟨content, neither⟩
  -- of three contents with three checksums, one is left
  have zero : adler32 [0] = 65537 := rfl
  have one : adler32 [1] = 131074 := rfl
  have two : adler32 [2] = 196611 := rfl
  rcases either [0] with sumZero | isZero
  · rcases either [1] with sumOne | isOne
    · omega
    · rcases either [2] with sumTwo | isTwo
      · omega
      · simp [isOne] at isTwo
  · rcases either [1] with sumOne | isOne
    · rcases either [2] with sumTwo | isTwo
      · omega
      · simp [isZero] at isTwo
    · simp [isZero] at isOne

/-- The commands that publish what an upload has left. -/
def publishing (content : Bytes) (clears : Bool) : List (Effect Bytes) :=
  ⟨clears, false, none⟩ :: (if clears then [⟨true, true, none⟩] else []) ++
    [⟨true, false, some content⟩, ⟨true, true, none⟩]

/-- Without a checksum whatever an upload leaves can be published. -/
theorem publishes_unverified (files : Dict String Bytes) (output tmp : String)
    (source content : Bytes) (retries : Nat) :
    (run (CopyCall.step output tmp) (gfalCopySafe files source none (retries + 1))
      (publishing content (tmp ∈ files.keys))).files.get? output = some content := by
  by_cases known : tmp ∈ files.keys
  · simp [publishing, known, gfalCopySafe, CopyCall.step, Writer.advanceUnreliable, Writer.advance,
      Writer.to, Writer.leave, Writer.verify]
  · simp [publishing, known, gfalCopySafe, CopyCall.step, Writer.advanceUnreliable, Writer.advance,
      Writer.to, Writer.leave, Writer.verify]

/-- A checksum is expected when both commands about the input answer. -/
theorem expectedAdler32sum_eq (answers : InputAnswers) (source : Bytes) :
    expectedAdler32sum answers source =
      if answers.stat = true ∧ answers.sum = true then some (adler32 source) else none := by
  rcases answers with ⟨stat, sum⟩
  cases stat <;> cases sum <;> rfl

/-- What a call publishes is verified exactly when it makes no attempt or knows
the checksum of its input. -/
theorem publishesVerified_iff (files : Dict String Bytes) (output suffix : String)
    (source : Bytes) (answers : InputAnswers) (nRetries : Nat) :
    PublishesVerified files output suffix source answers nRetries ↔
      nRetries = 0 ∨ answers.stat = true ∧ answers.sum = true := by
  have notTmp : output ≠ tmpName output suffix := (tmpName_ne output suffix).symm
  by_cases obtained : answers.stat = true ∧ answers.sum = true
  · apply iff_of_true
    · intro effects
      rw [expectedAdler32sum_eq, if_pos obtained]
      exact verified_of_expected notTmp nRetries effects
    · exact Or.inr obtained
  rw [PublishesVerified, expectedAdler32sum_eq, if_neg obtained]
  cases nRetries with
  | zero =>
      apply iff_of_true
      · intro effects
        left
        have ended : ∀ (call : CopyCall) (effect : Effect Bytes),
            call = ⟨files, .raises⟩ → call.step output (tmpName output suffix) effect =
              ⟨files, .raises⟩ := by
          rintro call effect rfl
          rfl
        rw [show gfalCopySafe files source none 0 = ⟨files, .raises⟩ from rfl,
          invariant_run_of_forall ended rfl effects]
      · exact Or.inl rfl
  | succ retries =>
      apply iff_of_false
      · intro verified
        obtain ⟨content, corrupted, different⟩ := exists_corrupted source (files.get? output)
        have published := verified (publishing content (tmpName output suffix ∈ files.keys))
        rw [publishes_unverified] at published
        rcases published with same | ⟨found, isFound, sums⟩
        · exact different same.symm
        · rw [Option.some.injEq] at isFound
          exact corrupted (isFound ▸ sums)
      · rintro (none | both)
        · cases none
        · exact obtained both

/-- With a `gfal-sum` of the input that fails, a corrupted upload replaces the
merged file that it was to update. -/
theorem not_publishesVerified_unsummed :
    ¬PublishesVerified (Dict.ofList [("nano_v15_0.root", [1, 2, 3])]) "nano_v15_0.root" "host-1"
      [1, 2, 3, 4] ⟨true, false⟩ 4 := by
  intro verified
  have published := verified (publishing [0] (tmpName "nano_v15_0.root" "host-1" ∈
    (Dict.ofList [("nano_v15_0.root", ([1, 2, 3] : Bytes))]).keys))
  rw [expectedAdler32sum_eq, if_neg (by decide), publishes_unverified] at published
  rcases published with same | ⟨content, found, sums⟩
  · revert same
    decide +kernel
  · cases found
    revert sums
    decide

end DSProd.Storage
