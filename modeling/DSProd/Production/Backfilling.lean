import DSProd.Library.Json
import DSProd.Library.Run
import DSProd.Production.Accounted
import DSProd.Production.Pruning

/-!
# What a backfill writes

`BackfillProducedRecords.run` of `tasks.py` on a branch, with any of its three
listings, its writes and the write of its flag failing.

The `_names` of this task reads a directory that cannot be listed as an empty
one.  So a record that is there may be written anew, from what the setup says
now, and a seed that is accounted for may be passed over for good, since the
flag is written all the same.
-/

namespace DSProd.Production

open DSProd.Library

/-! ## The branch -/

/-- The files of a unit: those of its `produced/` directory with their texts,
and the names in its staged and merged directories. -/
structure UnitFiles where
  produced : Dict String String
  staged : List String := []
  merged : List String := []
  deriving DecidableEq

/-- How a write ends: the text is in place, or it raises and leaves some text or
nothing.  One that is cancelled because another one raised leaves nothing. -/
inductive WriteEnd where
  | done
  | failed (left : Option String)
  deriving DecidableEq

/-- What a write puts in place. -/
def WriteEnd.left (text : String) : WriteEnd → Option String
  | .done => some text
  | .failed left => left

/-- The write of a file, as it ends. -/
def writeFile (files : Dict String String) (name text : String) (ended : WriteEnd) :
    Dict String String :=
  match ended.left text with
  | some written => files.set name written
  | none => files

/-- What a branch meets: which of its listings are answered, and how the writes
of the records and of the flag end. -/
structure BackfillAnswers where
  records : Bool
  staged : Bool
  merged : Bool
  writes : Nat → WriteEnd
  flag : WriteEnd

/-- What a branch did: the `produced/` directory it leaves, whether it raised,
and whether it wrote its flag. -/
structure Backfilled where
  produced : Dict String String
  raises : Bool
  flagged : Bool
  deriving DecidableEq

/-- The name of the flag in the `produced/` directory. -/
def backfillDone : String :=
  "backfill.done"

/-- The text of a record, as `_write_produced_record` writes it. -/
def recordText (plan : Plan) (stagedUri : ProdUnit → Nat → String) (unit : ProdUnit)
    (seed : Nat) : String :=
  let fields :=
    [("era", Json.quote unit.era), ("point", Json.quote unit.point),
      ("version", Json.quote unit.version), ("seed", toString seed),
      ("events_requested", toString plan.eventsPerJob),
      ("staged", Json.quote (stagedUri unit seed))]
  "\x7b" ++ ", ".intercalate (fields.map fun field => Json.quote field.1 ++ ": " ++ field.2) ++
    "\x7d"

namespace BackfillProducedRecords

/-- `_names`: whatever makes the listing fail, the directory reads as empty. -/
def names (answered : Bool) (present : List String) : List String :=
  if answered then present else []

/-- The seeds to write a record for. -/
def todo (plan : Plan) (unit : ProdUnit) (haveRecords haveStaged haveMerged : List String) :
    List Nat :=
  (plan.seeds unit).filter fun seed =>
    recordName unit.version seed ∉ haveRecords ∧
      (seed ∈ mergedSeeds plan unit haveMerged ∨ nanoName unit.version seed ∈ haveStaged)

/-- The text of the flag. -/
def flagText (plan : Plan) (unit : ProdUnit) (haveRecords : List String) (written : Nat) :
    String :=
  let skipped := (recorded plan unit haveRecords).length
  toString written ++ " written, " ++ toString skipped ++ " present, " ++
    toString (plan.seeds unit).length ++ " seeds\n"

variable (plan : Plan) (stagedUri : ProdUnit → Nat → String) (unit : ProdUnit)

/-- The records of some seeds, written one after another. -/
def writeRecords (writes : Nat → WriteEnd) (produced : Dict String String) (seeds : List Nat) :
    Dict String String :=
  Library.run (fun produced seed =>
    writeFile produced (recordName unit.version seed) (recordText plan stagedUri unit seed)
      (writes seed)) produced seeds

/-- The seeds a branch writes a record for. -/
def seedsToWrite (files : UnitFiles) (answers : BackfillAnswers) : List Nat :=
  todo plan unit (names answers.records files.produced.keys) (names answers.staged files.staged)
    (names answers.merged files.merged)

/-- `run`. -/
def run (files : UnitFiles) (answers : BackfillAnswers) : Backfilled :=
  let seeds := seedsToWrite plan unit files answers
  let produced := writeRecords plan stagedUri unit answers.writes files.produced seeds
  let text := flagText plan unit (names answers.records files.produced.keys) seeds.length
  -- a `range` whose step is zero raises
  if plan.filesPerMerge = 0 then ⟨files.produced, true, false⟩
  else if seeds.any fun seed => answers.writes seed ≠ .done then ⟨produced, true, false⟩
  else
    ⟨writeFile produced backfillDone text answers.flag, answers.flag ≠ .done,
      (answers.flag.left text).isSome⟩

end BackfillProducedRecords

/-! ## What is asked of it -/

/-- A staged file or a merged one accounts for a seed. -/
def AccountedFor (plan : Plan) (unit : ProdUnit) (staged merged : List String) (seed : Nat) :
    Prop :=
  nanoName unit.version seed ∈ staged ∨
    nanoName unit.version ((seed - 1) / plan.filesPerMerge) ∈ merged

instance (plan : Plan) (unit : ProdUnit) (staged merged : List String) (seed : Nat) :
    Decidable (AccountedFor plan unit staged merged seed) :=
  inferInstanceAs (Decidable (_ ∨ _))

/-- The job of a branch is done: what was there is unchanged, every seed that is
accounted for has a record, and nothing else but the flag is new. -/
structure BackfillFinished (plan : Plan) (unit : ProdUnit) (files : UnitFiles)
    (produced : Dict String String) : Prop where
  kept : ∀ name text, name ≠ backfillDone → files.produced.get? name = some text →
    produced.get? name = some text
  complete : ∀ seed ∈ plan.seeds unit, AccountedFor plan unit files.staged files.merged seed →
    recordName unit.version seed ∈ produced.keys
  only : ∀ name ∈ produced.keys, name ∈ files.produced.keys ∨ name = backfillDone ∨
    ∃ seed ∈ plan.seeds unit, AccountedFor plan unit files.staged files.merged seed ∧
      name = recordName unit.version seed

section Statement

variable (plan : Plan) (stagedUri : ProdUnit → Nat → String) (unit : ProdUnit)
  (files : UnitFiles) (answers : BackfillAnswers)

/-- A branch raises and does not write its flag, or it finishes its job. -/
def BackfillsFaithfully : Prop :=
  let did := BackfillProducedRecords.run plan stagedUri unit files answers
  (did.raises = true ∧ did.flagged = false) ∨
    BackfillFinished plan unit files did.produced

/-- The branch raises before its flag is there. -/
def StopsEarly : Prop :=
  plan.filesPerMerge = 0 ∨
    (∃ seed ∈ BackfillProducedRecords.seedsToWrite plan unit files answers,
      answers.writes seed ≠ .done) ∨
    answers.flag = .failed none

/-- A seed is accounted for by what the branch gets to read. -/
def SeenAccounted (seed : Nat) : Prop :=
  AccountedFor plan unit (BackfillProducedRecords.names answers.staged files.staged)
    (BackfillProducedRecords.names answers.merged files.merged) seed

/-- What the listings miss makes no difference: the records are listed, or those
that the branch writes anew are as it writes them; and it sees every seed
without a record that is accounted for. -/
structure MissesNothing : Prop where
  same : answers.records = true ∨ ∀ seed ∈ plan.seeds unit,
    SeenAccounted plan unit files answers seed → ∀ text,
      files.produced.get? (recordName unit.version seed) = some text →
        text = recordText plan stagedUri unit seed
  seen : ∀ seed ∈ plan.seeds unit, AccountedFor plan unit files.staged files.merged seed →
    recordName unit.version seed ∉ files.produced.keys →
      SeenAccounted plan unit files answers seed

end Statement

/-! ## Names -/

theorem recordName_ne_backfillDone (version : String) (seed : Nat) :
    recordName version seed ≠ backfillDone := by
  intro same
  have first := congrArg (fun name => name.toList.head?) same
  simp [recordName, backfillDone] at first

namespace BackfillProducedRecords

/-- What is read is there. -/
theorem mem_of_mem_names {answered : Bool} {present : List String} {name : String}
    (read : name ∈ names answered present) : name ∈ present := by
  rw [names] at read
  split at read
  · exact read
  · cases read

end BackfillProducedRecords

section Branch

variable {plan : Plan} {stagedUri : ProdUnit → Nat → String} {unit : ProdUnit}
  {files : UnitFiles} {answers : BackfillAnswers} {seed : Nat}

/-- What a branch sees accounted for is accounted for. -/
theorem SeenAccounted.accountedFor (sees : SeenAccounted plan unit files answers seed) :
    AccountedFor plan unit files.staged files.merged seed :=
  sees.imp BackfillProducedRecords.mem_of_mem_names BackfillProducedRecords.mem_of_mem_names

/-- A branch writes the seeds that it sees accounted for and does not see
recorded. -/
theorem mem_seedsToWrite_iff (positive : 0 < plan.filesPerMerge) :
    seed ∈ BackfillProducedRecords.seedsToWrite plan unit files answers ↔
      seed ∈ plan.seeds unit ∧
        recordName unit.version seed ∉
          BackfillProducedRecords.names answers.records files.produced.keys ∧
        SeenAccounted plan unit files answers seed := by
  rw [BackfillProducedRecords.seedsToWrite, BackfillProducedRecords.todo, List.mem_filter,
    decide_eq_true_eq, mem_mergedSeeds_iff positive, SeenAccounted, AccountedFor]
  tauto

/-! ## Writes -/

variable (plan stagedUri unit) in
/-- Writes that are done put every record in place, and change nothing else. -/
theorem get?_writeRecords {writes : Nat → WriteEnd} (produced : Dict String String)
    {seeds : List Nat} (done : ∀ seed ∈ seeds, writes seed = .done) :
    let after := BackfillProducedRecords.writeRecords plan stagedUri unit writes produced seeds
    (∀ seed ∈ seeds, after.get? (recordName unit.version seed) =
        some (recordText plan stagedUri unit seed)) ∧
      ∀ name, (∀ seed ∈ seeds, name ≠ recordName unit.version seed) →
        after.get? name = produced.get? name := by
  induction seeds generalizing produced with
  | nil =>
      constructor
      · intro seed none
        cases none
      · intro name _
        rfl
  | cons first rest ih =>
      rw [List.forall_mem_cons] at done
      obtain ⟨firstDone, restDone⟩ := done
      obtain ⟨written, unchanged⟩ := ih (produced.set (recordName unit.version first)
        (recordText plan stagedUri unit first)) restDone
      rw [BackfillProducedRecords.writeRecords, run_cons, firstDone]
      constructor
      · intro seed member
        by_cases later : seed ∈ rest
        · exact written seed later
        · have same : seed = first := (List.mem_cons.mp member).resolve_right later
          rw [same]
          apply (unchanged _ _).trans (Dict.get?_set_self _ _ _)
          intro other among equal
          exact later (same ▸ recordName_injective unit.version equal ▸ among)
      · intro name other
        rw [List.forall_mem_cons] at other
        apply (unchanged name other.2).trans
        rw [Dict.get?_set, if_neg other.1]

/-! ## A branch that writes its flag -/

variable (stagedUri) in
/-- A branch that does not stop early writes all its records, and its flag. -/
theorem run_of_goesOn (goesOn : ¬StopsEarly plan unit files answers) :
    ∃ text, BackfillProducedRecords.run plan stagedUri unit files answers =
      ⟨(BackfillProducedRecords.writeRecords plan stagedUri unit answers.writes files.produced
          (BackfillProducedRecords.seedsToWrite plan unit files answers)).set backfillDone text,
        answers.flag ≠ .done, true⟩ := by
  simp only [StopsEarly, not_or, not_exists, not_and, not_not] at goesOn
  obtain ⟨positive, done, flag⟩ := goesOn
  have quiet : ¬(BackfillProducedRecords.seedsToWrite plan unit files answers).any
      (fun seed => answers.writes seed ≠ .done) = true := by
    simpa using done
  rw [BackfillProducedRecords.run, if_neg positive, if_neg quiet]
  cases ended : answers.flag with
  | done => exact ⟨_, rfl⟩
  | failed left =>
      cases left with
      | none => exact absurd ended flag
      | some text => exact ⟨text, rfl⟩

/-- One that stops early raises, and its flag is not written. -/
theorem run_of_stopsEarly (stops : StopsEarly plan unit files answers) :
    (BackfillProducedRecords.run plan stagedUri unit files answers).raises = true ∧
      (BackfillProducedRecords.run plan stagedUri unit files answers).flagged = false := by
  rw [BackfillProducedRecords.run]
  by_cases zero : plan.filesPerMerge = 0
  · rw [if_pos zero]
    exact ⟨rfl, rfl⟩
  by_cases failed : (BackfillProducedRecords.seedsToWrite plan unit files answers).any
      (fun seed => answers.writes seed ≠ .done) = true
  · rw [if_neg zero, if_pos failed]
    exact ⟨rfl, rfl⟩
  · have flag : answers.flag = .failed none := by
      rcases stops with none | ⟨seed, member, ended⟩ | flag
      · exact absurd none zero
      · apply absurd _ failed
        exact List.any_eq_true.mpr ⟨seed, member, decide_eq_true ended⟩
      · exact flag
    rw [if_neg zero, if_neg failed, flag]
    exact ⟨rfl, rfl⟩

variable (stagedUri) in
/-- What the directory of a branch holds once all its records and its flag are
written. -/
theorem get?_run_of_goesOn (goesOn : ¬StopsEarly plan unit files answers) :
    let after := (BackfillProducedRecords.run plan stagedUri unit files answers).produced
    (∀ seed ∈ BackfillProducedRecords.seedsToWrite plan unit files answers,
        after.get? (recordName unit.version seed) =
          some (recordText plan stagedUri unit seed)) ∧
      ∀ name ≠ backfillDone,
        (∀ seed ∈ BackfillProducedRecords.seedsToWrite plan unit files answers,
          name ≠ recordName unit.version seed) →
        after.get? name = files.produced.get? name := by
  have done : ∀ seed ∈ BackfillProducedRecords.seedsToWrite plan unit files answers,
      answers.writes seed = .done := by
    simp only [StopsEarly, not_or, not_exists, not_and, not_not] at goesOn
    exact goesOn.2.1
  obtain ⟨text, ran⟩ := run_of_goesOn stagedUri goesOn
  obtain ⟨written, unchanged⟩ := get?_writeRecords plan stagedUri unit files.produced done
  rw [ran]
  constructor
  · intro seed member
    rw [Dict.get?_set, if_neg (recordName_ne_backfillDone unit.version seed)]
    exact written seed member
  · intro name notFlag other
    rw [Dict.get?_set, if_neg notFlag]
    exact unchanged name other

variable (stagedUri) in
/-- A name other than the flag's is one of a record that is written, or is left
as it was. -/
theorem get?_run_cases (goesOn : ¬StopsEarly plan unit files answers) {name : String}
    (notFlag : name ≠ backfillDone) :
    let after := (BackfillProducedRecords.run plan stagedUri unit files answers).produced
    (∃ seed ∈ BackfillProducedRecords.seedsToWrite plan unit files answers,
        name = recordName unit.version seed ∧
          after.get? name = some (recordText plan stagedUri unit seed)) ∨
      (∀ seed ∈ BackfillProducedRecords.seedsToWrite plan unit files answers,
        name ≠ recordName unit.version seed) ∧ after.get? name = files.produced.get? name := by
  obtain ⟨written, unchanged⟩ := get?_run_of_goesOn stagedUri goesOn
  by_cases writes : ∃ seed ∈ BackfillProducedRecords.seedsToWrite plan unit files answers,
      name = recordName unit.version seed
  · obtain ⟨seed, among, rfl⟩ := writes
    exact Or.inl ⟨seed, among, rfl, written seed among⟩
  · have other : ∀ seed ∈ BackfillProducedRecords.seedsToWrite plan unit files answers,
        name ≠ recordName unit.version seed := fun seed among same => writes ⟨seed, among, same⟩
    exact Or.inr ⟨other, unchanged name notFlag other⟩

theorem filesPerMerge_pos (goesOn : ¬StopsEarly plan unit files answers) :
    0 < plan.filesPerMerge := by
  apply Nat.pos_of_ne_zero
  exact fun zero => goesOn (Or.inl zero)

/-- What a branch that has finished its job missed made no difference. -/
theorem missesNothing_of_finished (goesOn : ¬StopsEarly plan unit files answers)
    (finished : BackfillFinished plan unit files
      (BackfillProducedRecords.run plan stagedUri unit files answers).produced) :
    MissesNothing plan stagedUri unit files answers where
  same := by
    cases answered : answers.records with
    | true => exact Or.inl rfl
    | false =>
        right
        intro seed member sees text present
        have writes := (mem_seedsToWrite_iff (filesPerMerge_pos goesOn)).mpr
          ⟨member, by rw [answered]; exact List.not_mem_nil, sees⟩
        have written := (get?_run_of_goesOn stagedUri goesOn).1 seed writes
        have kept := finished.kept _ text (recordName_ne_backfillDone unit.version seed) present
        exact Option.some.inj (kept.symm.trans written)
  seen seed member accounted unrecorded := by
    have recorded := finished.complete seed member accounted
    rcases get?_run_cases stagedUri goesOn (recordName_ne_backfillDone unit.version seed) with
      ⟨other, among, same, _⟩ | ⟨_, unchanged⟩
    · rw [← recordName_injective unit.version same] at among
      exact ((mem_seedsToWrite_iff (filesPerMerge_pos goesOn)).mp among).2.2
    · rw [Dict.get?_eq_none_iff.mpr unrecorded] at unchanged
      exact absurd recorded (Dict.get?_eq_none_iff.mp unchanged)

/-- Where what is missed makes no difference, no record is changed. -/
theorem kept_of_missesNothing (goesOn : ¬StopsEarly plan unit files answers)
    (missesNothing : MissesNothing plan stagedUri unit files answers) {name text : String}
    (notFlag : name ≠ backfillDone) (present : files.produced.get? name = some text) :
    (BackfillProducedRecords.run plan stagedUri unit files answers).produced.get? name =
      some text := by
  rcases get?_run_cases stagedUri goesOn notFlag with
    ⟨seed, among, rfl, written⟩ | ⟨_, unchanged⟩
  · obtain ⟨member, unread, sees⟩ := (mem_seedsToWrite_iff (filesPerMerge_pos goesOn)).mp among
    have unanswered : ¬answers.records = true := by
      intro answered
      rw [answered] at unread
      exact unread (Dict.mem_keys_of_get? present)
    rw [missesNothing.same.resolve_left unanswered seed member sees text present]
    exact written
  · exact unchanged.trans present

/-- Where what is missed makes no difference, a branch finishes its job. -/
theorem finished_of_missesNothing (goesOn : ¬StopsEarly plan unit files answers)
    (missesNothing : MissesNothing plan stagedUri unit files answers) :
    BackfillFinished plan unit files
      (BackfillProducedRecords.run plan stagedUri unit files answers).produced where
  kept _ _ notFlag present := kept_of_missesNothing goesOn missesNothing notFlag present
  complete seed member accounted := by
    by_cases recorded : recordName unit.version seed ∈ files.produced.keys
    · obtain ⟨text, present⟩ := Dict.mem_keys_iff.mp recorded
      exact Dict.mem_keys_of_get? (kept_of_missesNothing goesOn missesNothing
        (recordName_ne_backfillDone unit.version seed) present)
    · have sees := missesNothing.seen seed member accounted recorded
      have writes := (mem_seedsToWrite_iff (filesPerMerge_pos goesOn)).mpr
        ⟨member, fun read => recorded (BackfillProducedRecords.mem_of_mem_names read), sees⟩
      exact Dict.mem_keys_of_get? ((get?_run_of_goesOn stagedUri goesOn).1 seed writes)
  only name present := by
    by_cases flag : name = backfillDone
    · exact Or.inr (Or.inl flag)
    rcases get?_run_cases stagedUri goesOn flag with
      ⟨seed, among, same, _⟩ | ⟨_, unchanged⟩
    · obtain ⟨member, _, sees⟩ := (mem_seedsToWrite_iff (filesPerMerge_pos goesOn)).mp among
      exact Or.inr (Or.inr ⟨seed, member, sees.accountedFor, same⟩)
    · left
      obtain ⟨text, found⟩ := Dict.mem_keys_iff.mp present
      rw [unchanged] at found
      exact Dict.mem_keys_of_get? found

/-- A branch that writes its flag has finished its job exactly when what its
listings miss makes no difference. -/
theorem finished_iff (goesOn : ¬StopsEarly plan unit files answers) :
    BackfillFinished plan unit files
        (BackfillProducedRecords.run plan stagedUri unit files answers).produced ↔
      MissesNothing plan stagedUri unit files answers :=
  ⟨missesNothing_of_finished goesOn, finished_of_missesNothing goesOn⟩

/-- A branch is faithful exactly when it stops before its flag is there, or what
its listings miss makes no difference. -/
theorem backfillsFaithfully_iff :
    BackfillsFaithfully plan stagedUri unit files answers ↔
      StopsEarly plan unit files answers ∨ MissesNothing plan stagedUri unit files answers := by
  rw [BackfillsFaithfully]
  by_cases stops : StopsEarly plan unit files answers
  · exact iff_of_true (Or.inl (run_of_stopsEarly stops)) (Or.inl stops)
  · obtain ⟨text, ran⟩ := run_of_goesOn stagedUri stops
    have flagged : (BackfillProducedRecords.run plan stagedUri unit files answers).flagged =
        true := by
      rw [ran]
    rw [or_iff_right stops, ← finished_iff stops]
    apply or_iff_right
    rintro ⟨_, unflagged⟩
    exact absurd (flagged.symm.trans unflagged) Bool.noConfusion

end Branch

/-! ## A record that is not listed -/

/-- Where the staged files are. -/
def stagedAt (unit : ProdUnit) (seed : Nat) : String :=
  "davs://storage/" ++ nanoName unit.version seed

/-- The record of the first of two seeds asks for fewer events than the setup
does now, and both seeds are merged. -/
def olderRecord : UnitFiles where
  produced := Dict.empty.set "nano_v15_1.json"
    (recordText { twoSeeds with eventsPerJob := 500 } stagedAt someUnit 1)
  merged := ["nano_v15_0.root"]

/-- The directory of the records cannot be listed, and nothing else fails. -/
def recordsUnread : BackfillAnswers where
  records := false
  staged := true
  merged := true
  writes _ := .done
  flag := .done

/-- The branch writes the record anew, and its flag. -/
theorem not_backfillsFaithfully_recordsUnread :
    ¬BackfillsFaithfully twoSeeds stagedAt someUnit olderRecord recordsUnread := by
  have quiet : (BackfillProducedRecords.run twoSeeds stagedAt someUnit olderRecord
      recordsUnread).raises = false := by
    decide +kernel
  have changed : (BackfillProducedRecords.run twoSeeds stagedAt someUnit olderRecord
      recordsUnread).produced.get? "nano_v15_1.json" ≠
        olderRecord.produced.get? "nano_v15_1.json" := by
    decide +kernel
  rintro (⟨raises, _⟩ | finished)
  · exact absurd (quiet.symm.trans raises) Bool.noConfusion
  · exact changed (finished.kept "nano_v15_1.json" _ (by decide) rfl)

end DSProd.Production
