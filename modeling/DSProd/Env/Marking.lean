import DSProd.Env.Core

/-!
# Markers of complete directories

What a marker in `soft/` promises, over any history of sourcings with any
commands failing or interrupted.  Three ends of a command break the promise,
and no others: a removal of `dsprod_env` that stops between its files and its
marker, a marker of `dsprod_env` that is cut to one of another list, and a
deletion of compiled files that fails and is not looked at.
-/

namespace DSProd.Env

open DSProd.Library

/-! ## What is asked of a sourcing -/

/-- The marker of a directory records a list of pins. -/
def Copy.Records (copy : Copy) (pins : Pins) : Prop :=
  ∃ text, copy.marker = some text ∧ Text.dropNewlines text = pins.line

/-- A directory is completely built from the list that its marker records. -/
def Copy.Truthful (copy : Copy) : Prop :=
  ∀ pins, copy.Records pins → copy.contents = .complete pins

/-- A directory that may be there records a list. -/
def RecordsPins (dir : Option Copy) (pins : Pins) : Prop :=
  ∃ copy ∈ dir, copy.Records pins

/-- A new vendored copy of a list: all of it, and marked. -/
def Copy.IsNew (copy : Copy) (pins : Pins) : Prop :=
  (copy.contents = .complete pins ∨ copy.contents = .compiled pins) ∧
    copy.marker = some pins.marker

/-- Both directories are what their markers say. -/
structure MarkedComplete (soft : Soft) : Prop where
  env : ∀ copy ∈ soft.dsprodEnv, copy.Truthful
  vendor : ∀ copy ∈ soft.vendor, copy.Truthful

/-- The vendored copy is not a part of one. -/
def VendorWhole (soft : Soft) : Prop :=
  ∀ copy ∈ soft.vendor, copy.contents ≠ .unfinished

/-- The second rename failed, or was interrupted before it took effect. -/
def SecondRenameMissed (sourcing : Sourcing) : Prop :=
  sourcing.moveInPlace = .failed ∨ sourcing.moveInPlace = .interrupted false ∨
    sourcing.moveAside = .interrupted true

/-- What a sourcing promises of the `soft/` it finds. -/
structure SourcesSoundly (soft : Soft) (sourcing : Sourcing) : Prop where
  marked : MarkedComplete (sourced soft sourcing)
  envKept : RecordsPins soft.dsprodEnv sourcing.pins →
    (sourced soft sourcing).dsprodEnv = soft.dsprodEnv
  vendorKept : RecordsPins soft.vendor sourcing.pins →
    (sourced soft sourcing).vendor = soft.vendor
  whole : VendorWhole (sourced soft sourcing)
  vendor : (sourced soft sourcing).vendor = soft.vendor ∨
    (∃ copy ∈ (sourced soft sourcing).vendor, copy.IsNew sourcing.pins) ∨
    ((sourced soft sourcing).vendor = none ∧ SecondRenameMissed sourcing)
  batch : sourcing.inBatchJob = true → sourced soft sourcing = soft
  succeeds : ∀ after, build soft sourcing = .ok after →
    RecordsPins after.dsprodEnv sourcing.pins ∧ RecordsPins after.vendor sourcing.pins

/-! ## When it keeps its promise -/

/-- The sourcing sets out to build `dsprod_env`. -/
def RebuildsEnv (soft : Soft) (sourcing : Sourcing) : Prop :=
  sourcing.envAnswered = true ∧ ¬RecordsPins soft.dsprodEnv sourcing.pins ∧
    sourcing.inBatchJob = false

/-- It comes to the marker of `dsprod_env`. -/
structure FillsEnv (soft : Soft) (sourcing : Sourcing) : Prop where
  rebuilds : RebuildsEnv soft sourcing
  removed : soft.dsprodEnv = none ∨ sourcing.removeEnv = .done
  made : sourcing.makeEnv = .done
  created : sourcing.createsVenv = true
  activated : sourcing.activatesNew = true
  upgraded : sourcing.upgradesPip = true
  installed : sourcing.installsPackages = true

/-- It comes to the vendored copy. -/
def EnvReady (soft : Soft) (sourcing : Sourcing) : Prop :=
  (sourcing.envAnswered = true ∧ RecordsPins soft.dsprodEnv sourcing.pins ∧
      sourcing.activatesOld = true) ∨
    (FillsEnv soft sourcing ∧ sourcing.markEnv = .done)

/-- It puts a new vendored copy in place, once it comes to that. -/
structure ReplacesVendor (dir : Option Copy) (sourcing : Sourcing) : Prop where
  answered : sourcing.vendorAnswered = true
  other : ¬RecordsPins dir sourcing.pins
  notBatch : sourcing.inBatchJob = false
  cleaned : sourcing.cleanBefore = .done
  filled : ∃ compiled, sourcing.fill = .done compiled
  deleted : sourcing.deleteCompiled ≠ .interrupted
  marked : sourcing.markVendor = .done
  aside : dir = none ∨ sourcing.moveAside = .done
  inPlace : sourcing.moveInPlace = .done ∨ sourcing.moveInPlace = .interrupted true

/-- No command of a sourcing ends in one of the three ways that break the
promise: a removal of `dsprod_env` that leaves the marker of what it has taken
files from, a marker of `dsprod_env` that is cut to one of another list, and a
vendored copy that is put in place with its compiled files. -/
structure EndsWell (soft : Soft) (sourcing : Sourcing) : Prop where
  removal : RebuildsEnv soft sourcing → sourcing.removeEnv = .stopped (.left true false) →
    ∀ copy ∈ soft.dsprodEnv, ∀ pins, ¬copy.Records pins
  marking : FillsEnv soft sourcing → ∀ written, sourcing.markEnv = .stopped (some written) →
    ∀ pins, Text.dropNewlines (Text.take written sourcing.pins.marker) = pins.line →
      pins = sourcing.pins
  compiled : EnvReady soft sourcing → ReplacesVendor soft.vendor sourcing →
    sourcing.fill = .done true → sourcing.deleteCompiled ≠ .failed

/-! ## Markers -/

theorem words_plain (pins : Pins) :
    ∀ word ∈ pins.words, word ≠ "" ∧ ' ' ∉ word.toList ∧ '\n' ∉ word.toList := by
  rw [Pins.words, List.forall_mem_cons, List.forall_mem_map]
  exact ⟨⟨pins.pip.some, pins.pip.word⟩, fun pin _ => ⟨pin.some, pin.word⟩⟩

theorem newline_notMem_line (pins : Pins) : '\n' ∉ pins.line.toList := by
  intro member
  rcases Text.mem_of_mem_intercalate member with blank | ⟨word, isWord, inWord⟩
  · exact absurd blank (by decide)
  · exact (words_plain pins word isWord).2.2 inWord

theorem line_ne_empty (pins : Pins) : pins.line ≠ "" := by
  intro empty
  have words : pins.words = [""] := by
    apply Text.words_eq_of_intercalate (List.cons_ne_nil _ _) (List.cons_ne_nil _ _)
    · exact fun word member => (words_plain pins word member).2.1
    · simp
    · rw [String.intercalate_singleton]
      exact empty
  exact pins.pip.some (List.cons.inj words).1

theorem text_injective : Function.Injective Pin.text := by
  intro first second same
  cases first
  cases second
  cases same
  rfl

/-- A line tells the pins it was made of. -/
theorem line_injective : Function.Injective Pins.line := by
  intro first second same
  have words : first.words = second.words := by
    apply Text.words_eq_of_intercalate (List.cons_ne_nil _ _) (List.cons_ne_nil _ _) _ _ same
    · exact fun word member => (words_plain first word member).2.1
    · exact fun word member => (words_plain second word member).2.1
  obtain ⟨samePip, samePackages⟩ := List.cons.inj words
  obtain ⟨pip, packages⟩ := first
  obtain ⟨otherPip, otherPackages⟩ := second
  rw [Pins.mk.injEq]
  exact ⟨text_injective samePip,
    (List.map_inj_right fun _ _ equal => text_injective equal).mp samePackages⟩

theorem dropNewlines_marker (pins : Pins) : Text.dropNewlines pins.marker = pins.line :=
  Text.dropNewlines_append_newline (newline_notMem_line pins)

/-- A whole marker records its list and no other. -/
theorem records_marker_iff {contents : Contents} {pins others : Pins} :
    Copy.Records ⟨contents, some pins.marker⟩ others ↔ others = pins := by
  constructor
  · rintro ⟨text, isText, reads⟩
    cases isText
    exact (line_injective ((dropNewlines_marker pins).symm.trans reads)).symm
  · rintro rfl
    exact ⟨_, rfl, dropNewlines_marker others⟩

theorem not_records_unmarked {contents : Contents} {pins : Pins} :
    ¬Copy.Records ⟨contents, none⟩ pins := by
  rintro ⟨_, unmarked, _⟩
  cases unmarked

/-- What a sourcing reads of a directory is its pins exactly when the directory
records them. -/
theorem text_eq_line_iff {dir : Option Copy} {pins : Pins} :
    (installed true dir).text = pins.line ↔ RecordsPins dir pins := by
  cases dir with
  | none =>
      apply iff_of_false
      · exact fun same => line_ne_empty pins same.symm
      · rintro ⟨_, none, _⟩
        cases none
  | some copy =>
      cases marked : copy.marker with
      | none =>
          apply iff_of_false
          · intro same
            rw [installed, marked] at same
            exact line_ne_empty pins same.symm
          · rintro ⟨_, isCopy, text, isText, _⟩
            cases isCopy
            rw [marked] at isText
            cases isText
      | some text =>
          rw [installed, marked]
          constructor
          · exact fun reads => ⟨copy, rfl, text, marked, reads⟩
          · rintro ⟨_, isCopy, other, isText, reads⟩
            cases isCopy
            rw [marked] at isText
            cases isText
            exact reads

/-! ## What a sourcing does to the driver environment -/

/-- What `_dsprod_driver_env` may come to. -/
inductive EnvOutcome (soft : Soft) (sourcing : Sourcing) : Except Soft Soft → Prop
  | refuses (keeps : ¬RebuildsEnv soft sourcing) (unready : ¬EnvReady soft sourcing) :
      EnvOutcome soft sourcing (.error soft)
  | kept (keeps : ¬RebuildsEnv soft sourcing) (ready : EnvReady soft sourcing)
      (records : RecordsPins soft.dsprodEnv sourcing.pins) :
      EnvOutcome soft sourcing (.ok soft)
  | halfRemoved (rebuilds : RebuildsEnv soft sourcing) (unready : ¬EnvReady soft sourcing)
      (copy : Copy) (found : soft.dsprodEnv = some copy) (left : Leftover)
      (stopped : sourcing.removeEnv = .stopped left) :
      EnvOutcome soft sourcing (.error { soft with dsprodEnv := left.of copy })
  | unfilled (rebuilds : RebuildsEnv soft sourcing) (unready : ¬EnvReady soft sourcing)
      (removed : soft.dsprodEnv = none ∨ sourcing.removeEnv = .done)
      (unfilled : ¬FillsEnv soft sourcing) (dir : Option Copy)
      (unmarked : dir = none ∨ dir = some ⟨.unfinished, none⟩) :
      EnvOutcome soft sourcing (.error { soft with dsprodEnv := dir })
  | halfMarked (fills : FillsEnv soft sourcing) (unready : ¬EnvReady soft sourcing)
      (written : Option Nat) (stopped : sourcing.markEnv = .stopped written) :
      EnvOutcome soft sourcing (.error { soft with
        dsprodEnv := some ⟨.complete sourcing.pins, cutMarker sourcing.pins written⟩ })
  | built (fills : FillsEnv soft sourcing) (ready : EnvReady soft sourcing) :
      EnvOutcome soft sourcing (.ok { soft with
        dsprodEnv := some ⟨.complete sourcing.pins, some sourcing.pins.marker⟩ })

section DriverEnv

variable {soft : Soft} {sourcing : Sourcing}

/-- A sourcing that builds `dsprod_env` is ready once it has marked it. -/
theorem envReady_iff_of_rebuilds (rebuilds : RebuildsEnv soft sourcing) :
    EnvReady soft sourcing ↔ FillsEnv soft sourcing ∧ sourcing.markEnv = .done :=
  or_iff_right fun kept => rebuilds.2.1 kept.2.1

/-- A `dsprod_env` that is not built is ready only if it is kept. -/
theorem not_envReady_of_keeps (keeps : ¬RebuildsEnv soft sourcing)
    (unkept : ¬(sourcing.envAnswered = true ∧ RecordsPins soft.dsprodEnv sourcing.pins ∧
      sourcing.activatesOld = true)) : ¬EnvReady soft sourcing := by
  rintro (kept | ⟨fills, _⟩)
  · exact unkept kept
  · exact keeps fills.rebuilds

theorem removeEnv_of_removed (removed : soft.dsprodEnv = none ∨ sourcing.removeEnv = .done) :
    removeEnv sourcing soft = .ok { soft with dsprodEnv := none } := by
  cases found : soft.dsprodEnv with
  | none =>
      have same : soft = { soft with dsprodEnv := none } := by rw [← found]
      simp only [removeEnv, found]
      rw [← same]
  | some copy =>
      have done := removed.resolve_left fun none => by simp [none] at found
      simp only [removeEnv, found, done]

/-- A removal that is cut short leaves something. -/
theorem not_removed_of_stopped {copy : Copy} {left : Leftover}
    (found : soft.dsprodEnv = some copy) (stopped : sourcing.removeEnv = .stopped left) :
    ¬(soft.dsprodEnv = none ∨ sourcing.removeEnv = .done) := by
  rintro (none | done)
  · rw [none] at found
    cases found
  · rw [done] at stopped
    cases stopped

/-- From a venv that is made to one that is marked. -/
theorem fillEnv_markEnv_cases (soft : Soft) (sourcing : Sourcing) :
    (sourcing.createsVenv = true ∧ sourcing.activatesNew = true ∧ sourcing.upgradesPip = true ∧
        sourcing.installsPackages = true ∧ (fillEnv sourcing soft >>= markEnv sourcing) =
          markEnv sourcing
            { soft with dsprodEnv := some ⟨.complete sourcing.pins, none⟩ }) ∨
      (¬(sourcing.createsVenv = true ∧ sourcing.activatesNew = true ∧
          sourcing.upgradesPip = true ∧ sourcing.installsPackages = true) ∧
        (fillEnv sourcing soft >>= markEnv sourcing) = .error soft) := by
  rw [fillEnv]
  cases sourcing.createsVenv <;> cases sourcing.activatesNew <;> cases sourcing.upgradesPip <;>
    cases sourcing.installsPackages <;> simp [checked, bind, Except.bind, pure, Except.pure]

/-- What becomes of a `dsprod_env` that is built where there is none. -/
theorem envOutcome_of_removed (rebuilds : RebuildsEnv soft sourcing)
    (removed : soft.dsprodEnv = none ∨ sourcing.removeEnv = .done) :
    EnvOutcome soft sourcing (makeEnv sourcing { soft with dsprodEnv := none } >>= fun soft =>
      fillEnv sourcing soft >>= markEnv sourcing) := by
  have ready := envReady_iff_of_rebuilds rebuilds
  cases made : sourcing.makeEnv with
  | stopped begun =>
      have unfilled : ¬FillsEnv soft sourcing := by
        intro fills
        rw [fills.made] at made
        cases made
      have unready : ¬EnvReady soft sourcing := fun isReady => unfilled (ready.mp isReady).1
      cases begun with
      | true =>
          simp only [makeEnv, made]
          exact .unfilled rebuilds unready removed unfilled _ (Or.inr rfl)
      | false =>
          simp only [makeEnv, made]
          exact .unfilled rebuilds unready removed unfilled _ (Or.inl rfl)
  | done =>
      have makes : makeEnv sourcing { soft with dsprodEnv := none } =
          .ok { soft with dsprodEnv := some ⟨.unfinished, none⟩ } := by
        simp only [makeEnv, made]
        rfl
      rw [makes]
      rcases fillEnv_markEnv_cases { soft with dsprodEnv := some ⟨.unfinished, none⟩ } sourcing
        with ⟨created, activated, upgraded, installs, marks⟩ | ⟨fails, stops⟩
      · have fills : FillsEnv soft sourcing :=
          ⟨rebuilds, removed, made, created, activated, upgraded, installs⟩
        change EnvOutcome soft sourcing (fillEnv sourcing _ >>= markEnv sourcing)
        rw [marks, markEnv]
        cases ended : sourcing.markEnv with
        | done => exact .built fills (ready.mpr ⟨fills, ended⟩)
        | stopped written =>
            apply EnvOutcome.halfMarked fills _ written ended
            intro isReady
            have marked := (ready.mp isReady).2
            rw [ended] at marked
            cases marked
      · have unfilled : ¬FillsEnv soft sourcing := fun fills =>
          fails ⟨fills.created, fills.activated, fills.upgraded, fills.installed⟩
        change EnvOutcome soft sourcing (fillEnv sourcing _ >>= markEnv sourcing)
        rw [stops]
        apply EnvOutcome.unfilled rebuilds _ removed unfilled _ (Or.inr rfl)
        exact fun isReady => unfilled (ready.mp isReady).1

theorem driverEnv_outcome (soft : Soft) (sourcing : Sourcing) :
    EnvOutcome soft sourcing (driverEnv sourcing soft) := by
  rw [driverEnv]
  cases answered : sourcing.envAnswered with
  | false =>
      have keeps : ¬RebuildsEnv soft sourcing := by
        intro rebuilds
        rw [RebuildsEnv, answered] at rebuilds
        cases rebuilds.1
      apply EnvOutcome.refuses keeps
      apply not_envReady_of_keeps keeps
      rintro ⟨answers, _⟩
      rw [answered] at answers
      cases answers
  | true =>
      have readable : installed true soft.dsprodEnv ≠ .unreadable := by
        cases soft.dsprodEnv <;> exact Installed.noConfusion
      rw [if_neg readable]
      by_cases records : RecordsPins soft.dsprodEnv sourcing.pins
      · have keeps : ¬RebuildsEnv soft sourcing := fun rebuilds => rebuilds.2.1 records
        rw [if_pos (text_eq_line_iff.mpr records), checked]
        cases activates : sourcing.activatesOld with
        | true => exact .kept keeps (Or.inl ⟨answered, records, activates⟩) records
        | false =>
            apply EnvOutcome.refuses keeps
            apply not_envReady_of_keeps keeps
            rintro ⟨_, _, isActive⟩
            rw [activates] at isActive
            cases isActive
      · rw [if_neg (text_eq_line_iff.not.mpr records)]
        cases batch : sourcing.inBatchJob with
        | true =>
            have keeps : ¬RebuildsEnv soft sourcing := by
              intro rebuilds
              rw [RebuildsEnv, batch] at rebuilds
              cases rebuilds.2.2
            apply EnvOutcome.refuses keeps
            exact not_envReady_of_keeps keeps fun kept => records kept.2.1
        | false =>
            have rebuilds : RebuildsEnv soft sourcing := ⟨answered, records, batch⟩
            by_cases removed : soft.dsprodEnv = none ∨ sourcing.removeEnv = .done
            · rw [removeEnv_of_removed removed]
              exact envOutcome_of_removed rebuilds removed
            · rw [not_or] at removed
              obtain ⟨present, unfinished⟩ := removed
              obtain ⟨copy, found⟩ := Option.ne_none_iff_exists'.mp present
              cases ended : sourcing.removeEnv with
              | done => exact absurd ended unfinished
              | stopped left =>
                  have removes : removeEnv sourcing soft =
                      .error { soft with dsprodEnv := left.of copy } := by
                    simp only [removeEnv, found, ended]
                  rw [removes]
                  apply EnvOutcome.halfRemoved rebuilds _ copy found left ended
                  intro isReady
                  exact not_removed_of_stopped found ended
                    ((envReady_iff_of_rebuilds rebuilds).mp isReady).1.removed

end DriverEnv

/-! ## What a sourcing does to the vendored copy -/

/-- What `_dsprod_vendor` may come to. -/
inductive VendorOutcome (soft : Soft) (sourcing : Sourcing) : Except Soft Soft → Prop
  | refuses (keeps : ¬ReplacesVendor soft.vendor sourcing) :
      VendorOutcome soft sourcing (.error soft)
  | kept (keeps : ¬ReplacesVendor soft.vendor sourcing)
      (records : RecordsPins soft.vendor sourcing.pins) : VendorOutcome soft sourcing (.ok soft)
  | stays (keeps : ¬ReplacesVendor soft.vendor sourcing) (notBatch : sourcing.inBatchJob = false)
      (siblings : List Copy) :
      VendorOutcome soft sourcing (.error { soft with siblings := siblings })
  | missing (keeps : ¬ReplacesVendor soft.vendor sourcing)
      (notBatch : sourcing.inBatchJob = false)
      (other : ¬RecordsPins soft.vendor sourcing.pins) (missed : SecondRenameMissed sourcing)
      (siblings : List Copy) :
      VendorOutcome soft sourcing (.error { soft with vendor := none, siblings := siblings })
  | replaced (replaces : ReplacesVendor soft.vendor sourcing) (copy : Copy)
      (isNew : copy.IsNew sourcing.pins)
      (compiled : copy.contents = .compiled sourcing.pins ↔
        sourcing.fill = .done true ∧ sourcing.deleteCompiled = .failed)
      (siblings : List Copy) (outcome : Except Soft Soft)
      (ends : outcome = .ok { soft with vendor := copy, siblings := siblings } ∨
        outcome = .error { soft with vendor := copy, siblings := siblings }) :
      VendorOutcome soft sourcing outcome

/-- The building of a copy next to the old one. -/
def building (sourcing : Sourcing) (soft : Soft) : Except Soft Copy := do
  let building ← fillBuilding sourcing soft
  let building ← deleteCompiled sourcing soft building
  markBuilding sourcing soft building

/-- The renames that put it in place. -/
def putInPlace (sourcing : Sourcing) (soft : Soft) (building : Copy) : Except Soft Soft := do
  let soft ← moveAside sourcing soft building
  let soft ← moveInPlace sourcing soft building
  cleanAfter sourcing soft

/-- The building comes to its end. -/
def Builds (sourcing : Sourcing) : Prop :=
  (∃ compiled, sourcing.fill = .done compiled) ∧ sourcing.deleteCompiled ≠ .interrupted ∧
    sourcing.markVendor = .done

/-- The new copy comes into place. -/
def Places (dir : Option Copy) (sourcing : Sourcing) : Prop :=
  (dir = none ∨ sourcing.moveAside = .done) ∧
    (sourcing.moveInPlace = .done ∨ sourcing.moveInPlace = .interrupted true)

section Vendor

variable (soft : Soft) (sourcing : Sourcing)

theorem building_cases :
    (Builds sourcing ∧ ∃ copy, building sourcing soft = .ok copy ∧ copy.IsNew sourcing.pins ∧
        (copy.contents = .compiled sourcing.pins ↔
          sourcing.fill = .done true ∧ sourcing.deleteCompiled = .failed)) ∨
      (¬Builds sourcing ∧
        ∃ siblings, building sourcing soft = .error { soft with siblings := siblings }) := by
  rw [building, Builds]
  cases filled : sourcing.fill with
  | stopped begun =>
      right
      cases begun with
      | true => simp [fillBuilding, filled, Soft.beside, bind, Except.bind]
      | false =>
          refine ⟨by simp, soft.siblings, ?_⟩
          simp [fillBuilding, filled, bind, Except.bind]
  | done compiled =>
      cases deleted : sourcing.deleteCompiled with
      | interrupted =>
          right
          cases compiled <;> simp [fillBuilding, deleteCompiled, filled, deleted, Soft.beside,
            bind, Except.bind]
      | done =>
          cases marked : sourcing.markVendor with
          | done =>
              left
              cases compiled <;> simp [fillBuilding, deleteCompiled, markBuilding, filled, deleted,
                marked, Copy.IsNew, bind, Except.bind]
          | stopped written =>
              right
              cases compiled <;> simp [fillBuilding, deleteCompiled, markBuilding, filled, deleted,
                marked, Soft.beside, bind, Except.bind]
      | failed =>
          cases marked : sourcing.markVendor with
          | done =>
              left
              cases compiled <;> simp [fillBuilding, deleteCompiled, markBuilding, filled, deleted,
                marked, Copy.IsNew, bind, Except.bind]
          | stopped written =>
              right
              cases compiled <;> simp [fillBuilding, deleteCompiled, markBuilding, filled, deleted,
                marked, Soft.beside, bind, Except.bind]

/-- The end of the renames, where no copy is in the way. -/
theorem moveInPlace_cases (copy : Copy) (absent : soft.vendor = none) :
    ((sourcing.moveInPlace = .done ∨ sourcing.moveInPlace = .interrupted true) ∧ ∃ siblings,
        (moveInPlace sourcing soft copy >>= cleanAfter sourcing) =
            .ok { soft with vendor := copy, siblings := siblings } ∨
          (moveInPlace sourcing soft copy >>= cleanAfter sourcing) =
            .error { soft with vendor := copy, siblings := siblings }) ∨
      ((sourcing.moveInPlace = .failed ∨ sourcing.moveInPlace = .interrupted false) ∧
        ∃ siblings, (moveInPlace sourcing soft copy >>= cleanAfter sourcing) =
          .error { soft with siblings := siblings }) := by
  cases placed : sourcing.moveInPlace with
  | failed =>
      right
      refine ⟨Or.inl rfl, copy :: soft.siblings, ?_⟩
      simp [moveInPlace, absent, placed, Soft.beside, bind, Except.bind]
  | interrupted moved =>
      cases moved with
      | false =>
          right
          refine ⟨Or.inr rfl, copy :: soft.siblings, ?_⟩
          simp [moveInPlace, absent, placed, Soft.beside, bind, Except.bind]
      | true =>
          left
          refine ⟨Or.inr rfl, soft.siblings, Or.inr ?_⟩
          simp [moveInPlace, absent, placed, bind, Except.bind]
  | done =>
      left
      refine ⟨Or.inl rfl, ?_⟩
      cases cleaned : sourcing.cleanAfter with
      | done =>
          refine ⟨[], Or.inl ?_⟩
          simp [moveInPlace, cleanAfter, absent, placed, cleaned, bind, Except.bind]
      | interrupted left =>
          refine ⟨left, Or.inr ?_⟩
          simp [moveInPlace, cleanAfter, absent, placed, cleaned, bind, Except.bind]
      | failed left =>
          refine ⟨left, ?_⟩
          cases ignores : sourcing.ignoresInterrupt <;>
            simp [moveInPlace, cleanAfter, absent, placed, cleaned, ignores, bind, Except.bind]

theorem putInPlace_cases (copy : Copy) :
    (Places soft.vendor sourcing ∧ ∃ siblings,
        putInPlace sourcing soft copy = .ok { soft with vendor := copy, siblings := siblings } ∨
        putInPlace sourcing soft copy =
          .error { soft with vendor := copy, siblings := siblings }) ∨
      (¬Places soft.vendor sourcing ∧ ∃ siblings,
        putInPlace sourcing soft copy = .error { soft with siblings := siblings } ∨
        (SecondRenameMissed sourcing ∧ putInPlace sourcing soft copy =
          .error { soft with vendor := none, siblings := siblings })) := by
  rw [putInPlace, Places]
  cases found : soft.vendor with
  | none =>
      have aside : moveAside sourcing soft copy = .ok soft := by
        simp only [moveAside, found]
      rw [aside]
      rcases moveInPlace_cases soft sourcing copy found with ⟨placed, ends⟩ | ⟨missed, ends⟩
      · exact Or.inl ⟨⟨Or.inl rfl, placed⟩, ends⟩
      · right
        rw [found] at ends
        refine ⟨fun places => ?_, ends.imp fun _ => Or.inl⟩
        rcases missed with missed | missed <;> simp [missed] at places
  | some old =>
      cases aside : sourcing.moveAside with
      | failed =>
          right
          refine ⟨by simp, copy :: soft.siblings, Or.inl ?_⟩
          simp [moveAside, found, aside, Soft.beside, bind, Except.bind]
      | interrupted moved =>
          right
          refine ⟨by simp, ?_⟩
          cases moved with
          | true =>
              refine ⟨copy :: old :: soft.siblings, Or.inr ⟨Or.inr (Or.inr aside), ?_⟩⟩
              simp [moveAside, found, aside, Soft.beside, bind, Except.bind]
          | false =>
              refine ⟨copy :: soft.siblings, Or.inl ?_⟩
              simp [moveAside, found, aside, Soft.beside, bind, Except.bind]
      | done =>
          have moves : moveAside sourcing soft copy =
              .ok { soft with vendor := none, siblings := old :: soft.siblings } := by
            simp only [moveAside, found, aside]
          rw [moves]
          rcases moveInPlace_cases { soft with vendor := none, siblings := old :: soft.siblings }
            sourcing copy rfl with ⟨placed, ends⟩ | ⟨missed, siblings, ends⟩
          · exact Or.inl ⟨⟨Or.inr rfl, placed⟩, ends⟩
          · right
            refine ⟨fun places => ?_, siblings, Or.inr ⟨?_, ends⟩⟩
            · rcases missed with missed | missed <;> simp [missed] at places
            · exact missed.imp id Or.inl

theorem replacesVendor_iff {dir : Option Copy} (answered : sourcing.vendorAnswered = true)
    (other : ¬RecordsPins dir sourcing.pins) (notBatch : sourcing.inBatchJob = false)
    (cleaned : sourcing.cleanBefore = .done) :
    ReplacesVendor dir sourcing ↔ Builds sourcing ∧ Places dir sourcing := by
  constructor
  · exact fun replaces =>
      ⟨⟨replaces.filled, replaces.deleted, replaces.marked⟩, replaces.aside, replaces.inPlace⟩
  · rintro ⟨⟨filled, deleted, marked⟩, aside, inPlace⟩
    exact ⟨answered, other, notBatch, cleaned, filled, deleted, marked, aside, inPlace⟩

/-- What becomes of a copy that is built once nothing unfinished is left. -/
theorem vendorOutcome_of_cleaned (answered : sourcing.vendorAnswered = true)
    (other : ¬RecordsPins soft.vendor sourcing.pins) (notBatch : sourcing.inBatchJob = false)
    (cleaned : sourcing.cleanBefore = .done) :
    VendorOutcome soft sourcing (do
      let building ← fillBuilding sourcing { soft with siblings := [] }
      let building ← deleteCompiled sourcing { soft with siblings := [] } building
      let building ← markBuilding sourcing { soft with siblings := [] } building
      putInPlace sourcing { soft with siblings := [] } building) := by
  have iff := replacesVendor_iff sourcing answered other notBatch cleaned
  have steps : (building sourcing { soft with siblings := [] } >>=
      putInPlace sourcing { soft with siblings := [] }) = (do
        let building ← fillBuilding sourcing { soft with siblings := [] }
        let building ← deleteCompiled sourcing { soft with siblings := [] } building
        let building ← markBuilding sourcing { soft with siblings := [] } building
        putInPlace sourcing { soft with siblings := [] } building) := by
    simp only [building, bind_assoc]
  rw [← steps]
  rcases building_cases { soft with siblings := [] } sourcing with
    ⟨builds, copy, isCopy, isNew, compiled⟩ | ⟨fails, siblings, stops⟩
  · rw [isCopy]
    change VendorOutcome soft sourcing (putInPlace sourcing _ copy)
    rcases putInPlace_cases { soft with siblings := [] } sourcing copy with
      ⟨places, siblings, ends⟩ | ⟨misses, siblings, ends | ⟨missed, ends⟩⟩
    · exact .replaced (iff.mpr ⟨builds, places⟩) copy isNew compiled siblings _ ends
    · rw [ends]
      exact .stays (fun replaces => misses (iff.mp replaces).2) notBatch siblings
    · rw [ends]
      exact .missing (fun replaces => misses (iff.mp replaces).2) notBatch other missed siblings
  · rw [stops]
    exact .stays (fun replaces => fails (iff.mp replaces).1) notBatch siblings

theorem vendor_outcome : VendorOutcome soft sourcing (vendor sourcing soft) := by
  rw [vendor]
  cases answered : sourcing.vendorAnswered with
  | false =>
      apply VendorOutcome.refuses
      intro replaces
      have answers := replaces.answered
      rw [answered] at answers
      cases answers
  | true =>
      have readable : installed true soft.vendor ≠ .unreadable := by
        cases soft.vendor <;> exact Installed.noConfusion
      rw [if_neg readable]
      by_cases records : RecordsPins soft.vendor sourcing.pins
      · rw [if_pos (text_eq_line_iff.mpr records)]
        exact .kept (fun replaces => replaces.other records) records
      · rw [if_neg (text_eq_line_iff.not.mpr records)]
        cases batch : sourcing.inBatchJob with
        | true =>
            apply VendorOutcome.refuses
            intro replaces
            have notBatch := replaces.notBatch
            rw [batch] at notBatch
            cases notBatch
        | false =>
            have uncleaned : sourcing.cleanBefore ≠ .done →
                ¬ReplacesVendor soft.vendor sourcing := fun fails replaces =>
              fails replaces.cleaned
            cases cleaned : sourcing.cleanBefore with
            | failed left =>
                simp only [cleanBefore, cleaned]
                exact .stays (uncleaned (by simp [cleaned])) batch left
            | interrupted left =>
                simp only [cleanBefore, cleaned]
                exact .stays (uncleaned (by simp [cleaned])) batch left
            | done =>
                have cleans : cleanBefore sourcing soft = .ok { soft with siblings := [] } := by
                  simp only [cleanBefore, cleaned]
                rw [cleans]
                exact vendorOutcome_of_cleaned soft sourcing answered records batch cleaned

end Vendor

/-! ## When the markers are true -/

section Exact

variable {soft : Soft} {sourcing : Sourcing} {outcome : Except Soft Soft}

theorem EnvOutcome.vendor_eq (ended : EnvOutcome soft sourcing outcome) :
    (left outcome).vendor = soft.vendor := by
  cases ended <;> rfl

theorem VendorOutcome.dsprodEnv_eq (ended : VendorOutcome soft sourcing outcome) :
    (left outcome).dsprodEnv = soft.dsprodEnv := by
  cases ended with
  | replaced _ _ _ _ _ _ ends => rcases ends with rfl | rfl <;> rfl
  | refuses => rfl
  | kept => rfl
  | stays => rfl
  | missing => rfl

theorem truthful_unmarked {contents : Contents} : Copy.Truthful ⟨contents, none⟩ :=
  fun _ records => absurd records not_records_unmarked

/-- What is left of a directory is what its marker says, unless files of it are
gone and the marker is not. -/
theorem truthful_leftover_iff {copy : Copy} (truthful : copy.Truthful) (left : Leftover) :
    (∀ some ∈ left.of copy, some.Truthful) ↔
      (left = .left true false → ∀ pins, ¬copy.Records pins) := by
  cases left with
  | gone => simp [Leftover.of]
  | left touched unmarked =>
      cases unmarked with
      | true =>
          apply iff_of_true
          · rintro some isSome
            cases isSome
            exact truthful_unmarked
          · exact fun impossible => by cases impossible
      | false =>
          cases touched with
          | false =>
              apply iff_of_true
              · rintro some isSome
                cases isSome
                exact truthful
              · exact fun impossible => by cases impossible
          | true =>
              constructor
              · intro isTruthful _ pins records
                have whole := isTruthful _ rfl pins records
                cases whole
              · rintro unrecorded some isSome pins records
                cases isSome
                exact absurd records (unrecorded rfl pins)

/-- A marker that is cut short is true when it is no other list's. -/
theorem truthful_cut_iff {pins : Pins} {written : Option Nat} :
    Copy.Truthful ⟨.complete pins, cutMarker pins written⟩ ↔
      ∀ number, written = some number → ∀ others,
        Text.dropNewlines (Text.take number pins.marker) = others.line → others = pins := by
  constructor
  · rintro truthful number rfl others reads
    have whole := truthful others ⟨_, rfl, reads⟩
    exact (Contents.complete.inj whole).symm
  · rintro alone others ⟨text, isText, reads⟩
    cases written with
    | none => cases isText
    | some number =>
        cases isText
        rw [alone number rfl others reads]

theorem truthful_complete (pins : Pins) : Copy.Truthful ⟨.complete pins, some pins.marker⟩ := by
  intro others records
  rw [records_marker_iff.mp records]

/-- `dsprod_env` is what its marker says exactly when neither its removal nor its
marker is cut short in a way that breaks the promise. -/
theorem EnvOutcome.truthful_iff (ended : EnvOutcome soft sourcing outcome)
    (truthful : ∀ copy ∈ soft.dsprodEnv, copy.Truthful) :
    (∀ copy ∈ (left outcome).dsprodEnv, copy.Truthful) ↔
      (RebuildsEnv soft sourcing → sourcing.removeEnv = .stopped (.left true false) →
          ∀ copy ∈ soft.dsprodEnv, ∀ pins, ¬copy.Records pins) ∧
        (FillsEnv soft sourcing → ∀ written, sourcing.markEnv = .stopped (some written) →
          ∀ pins, Text.dropNewlines (Text.take written sourcing.pins.marker) = pins.line →
            pins = sourcing.pins) := by
  -- a build that is let go on has nothing to remove, or has removed it
  have removedFirst : soft.dsprodEnv = none ∨ sourcing.removeEnv = .done →
      sourcing.removeEnv = .stopped (.left true false) →
        ∀ copy ∈ soft.dsprodEnv, ∀ pins, ¬copy.Records pins := by
    intro removed stopped copy found
    exact absurd removed (not_removed_of_stopped found stopped)
  cases ended with
  | refuses keeps _ =>
      exact iff_of_true truthful
        ⟨fun rebuilds => absurd rebuilds keeps, fun fills => absurd fills.rebuilds keeps⟩
  | kept keeps _ _ =>
      exact iff_of_true truthful
        ⟨fun rebuilds => absurd rebuilds keeps, fun fills => absurd fills.rebuilds keeps⟩
  | halfRemoved rebuilds _ copy found left stopped =>
      have unfilled : ¬FillsEnv soft sourcing :=
        fun fills => not_removed_of_stopped found stopped fills.removed
      apply (truthful_leftover_iff (truthful copy found) left).trans
      constructor
      · intro unrecorded
        refine ⟨fun _ cut other isOther => ?_, fun fills => absurd fills unfilled⟩
        rw [found] at isOther
        rw [stopped] at cut
        cases isOther
        exact unrecorded (Removing.stopped.inj cut)
      · rintro ⟨unrecorded, _⟩ rfl
        exact unrecorded rebuilds stopped copy found
  | unfilled _ _ removed unfilled dir unmarked =>
      apply iff_of_true
      · intro copy isCopy
        rcases unmarked with rfl | rfl
        · cases isCopy
        · cases isCopy
          exact truthful_unmarked
      · exact ⟨fun _ => removedFirst removed, fun fills => absurd fills unfilled⟩
  | halfMarked fills _ written stopped =>
      constructor
      · intro isTruthful
        refine ⟨fun _ => removedFirst fills.removed, fun _ number cut => ?_⟩
        rw [stopped] at cut
        exact truthful_cut_iff.mp (isTruthful _ rfl) number (Marking.stopped.inj cut)
      · rintro ⟨_, alone⟩ copy isCopy
        cases isCopy
        apply truthful_cut_iff.mpr
        rintro number rfl
        exact alone fills number stopped
  | built fills ready =>
      have marked := ((envReady_iff_of_rebuilds fills.rebuilds).mp ready).2
      apply iff_of_true
      · intro copy isCopy
        cases isCopy
        exact truthful_complete sourcing.pins
      · refine ⟨fun _ => removedFirst fills.removed, fun _ number cut => ?_⟩
        rw [marked] at cut
        cases cut

/-- The vendored copy is what its marker says exactly when none is put in place
with its compiled files. -/
theorem VendorOutcome.truthful_iff (ended : VendorOutcome soft sourcing outcome)
    (truthful : ∀ copy ∈ soft.vendor, copy.Truthful) :
    (∀ copy ∈ (left outcome).vendor, copy.Truthful) ↔
      (ReplacesVendor soft.vendor sourcing → sourcing.fill = .done true →
        sourcing.deleteCompiled ≠ .failed) := by
  cases ended with
  | refuses keeps => exact iff_of_true truthful fun replaces => absurd replaces keeps
  | kept keeps _ => exact iff_of_true truthful fun replaces => absurd replaces keeps
  | stays keeps _ _ => exact iff_of_true truthful fun replaces => absurd replaces keeps
  | missing keeps _ _ _ _ =>
      apply iff_of_true
      · exact fun copy none => by cases none
      · exact fun replaces => absurd replaces keeps
  | replaced replaces copy isNew compiled siblings _ ends =>
      have put : (left outcome).vendor = some copy := by
        rcases ends with rfl | rfl <;> rfl
      rw [put]
      constructor
      · intro isTruthful _ filled failed
        have whole := isTruthful copy rfl sourcing.pins
          ⟨_, isNew.2, dropNewlines_marker sourcing.pins⟩
        rw [compiled.mpr ⟨filled, failed⟩] at whole
        cases whole
      · intro deletes other isOther others records
        cases isOther
        obtain ⟨text, isText, reads⟩ := records
        rw [isNew.2] at isText
        cases isText
        rw [dropNewlines_marker] at reads
        rw [← line_injective reads]
        apply isNew.1.resolve_right
        intro isCompiled
        obtain ⟨filled, failed⟩ := compiled.mp isCompiled
        exact deletes replaces filled failed

/-! ## What always holds -/

theorem VendorOutcome.whole (ended : VendorOutcome soft sourcing outcome)
    (whole : VendorWhole soft) : VendorWhole (left outcome) := by
  cases ended with
  | refuses => exact whole
  | kept => exact whole
  | stays => exact whole
  | missing => exact fun copy none => by cases none
  | replaced _ copy isNew _ _ _ ends =>
      have put : (left outcome).vendor = some copy := by
        rcases ends with rfl | rfl <;> rfl
      intro other isOther
      rw [put] at isOther
      cases isOther
      rcases isNew.1 with complete | compiled
      · rw [complete]
        exact Contents.noConfusion
      · rw [compiled]
        exact Contents.noConfusion

/-- A sourcing comes to the vendored copy, or leaves it alone. -/
theorem build_cases (soft : Soft) (sourcing : Sourcing) :
    (EnvReady soft sourcing ∧ ∃ ready, EnvOutcome soft sourcing (.ok ready) ∧
        build soft sourcing = vendor sourcing ready) ∨
      (¬EnvReady soft sourcing ∧ ∃ stopped, EnvOutcome soft sourcing (.error stopped) ∧
        build soft sourcing = .error stopped) := by
  have ended := driverEnv_outcome soft sourcing
  rw [build]
  cases outcome : driverEnv sourcing soft with
  | ok ready =>
      rw [outcome] at ended
      left
      refine ⟨?_, ready, ended, rfl⟩
      cases ended with
      | kept _ isReady _ => exact isReady
      | built _ isReady => exact isReady
  | error stopped =>
      rw [outcome] at ended
      right
      refine ⟨?_, stopped, ended, rfl⟩
      cases ended with
      | refuses _ unready => exact unready
      | halfRemoved _ unready => exact unready
      | unfilled _ unready => exact unready
      | halfMarked _ unready => exact unready

theorem EnvOutcome.kept_of_records (ended : EnvOutcome soft sourcing outcome)
    (records : RecordsPins soft.dsprodEnv sourcing.pins) : left outcome = soft := by
  cases ended with
  | refuses => rfl
  | kept => rfl
  | halfRemoved rebuilds => exact absurd records rebuilds.2.1
  | unfilled rebuilds => exact absurd records rebuilds.2.1
  | halfMarked fills => exact absurd records fills.rebuilds.2.1
  | built fills => exact absurd records fills.rebuilds.2.1

theorem EnvOutcome.kept_of_batch (ended : EnvOutcome soft sourcing outcome)
    (batch : sourcing.inBatchJob = true) : left outcome = soft := by
  have keeps : ¬RebuildsEnv soft sourcing := by
    rintro ⟨_, _, notBatch⟩
    exact absurd (batch.symm.trans notBatch) Bool.noConfusion
  cases ended with
  | refuses => rfl
  | kept => rfl
  | halfRemoved rebuilds => exact absurd rebuilds keeps
  | unfilled rebuilds => exact absurd rebuilds keeps
  | halfMarked fills => exact absurd fills.rebuilds keeps
  | built fills => exact absurd fills.rebuilds keeps

theorem VendorOutcome.kept_of_records (ended : VendorOutcome soft sourcing outcome)
    (records : RecordsPins soft.vendor sourcing.pins) : (left outcome).vendor = soft.vendor := by
  cases ended with
  | refuses => rfl
  | kept => rfl
  | stays => rfl
  | missing _ _ other => exact absurd records other
  | replaced replaces => exact absurd records replaces.other

theorem VendorOutcome.kept_of_batch (ended : VendorOutcome soft sourcing outcome)
    (batch : sourcing.inBatchJob = true) : left outcome = soft := by
  have contrary : sourcing.inBatchJob ≠ false := by
    rw [batch]
    exact Bool.noConfusion
  cases ended with
  | refuses => rfl
  | kept => rfl
  | stays _ notBatch => exact absurd notBatch contrary
  | missing _ notBatch => exact absurd notBatch contrary
  | replaced replaces => exact absurd replaces.notBatch contrary

theorem recordsPins_marker {contents : Contents} {pins : Pins} :
    RecordsPins (some ⟨contents, some pins.marker⟩) pins :=
  ⟨_, rfl, records_marker_iff.mpr rfl⟩

theorem EnvOutcome.records_of_ok {ready : Soft} (ended : EnvOutcome soft sourcing (.ok ready)) :
    RecordsPins ready.dsprodEnv sourcing.pins := by
  cases ended with
  | kept _ _ records => exact records
  | built => exact recordsPins_marker

theorem Copy.IsNew.records {copy : Copy} {pins : Pins} (isNew : copy.IsNew pins) :
    copy.Records pins :=
  ⟨_, isNew.2, dropNewlines_marker pins⟩

theorem VendorOutcome.records_of_ok {after : Soft}
    (ended : VendorOutcome soft sourcing (.ok after)) :
    RecordsPins after.vendor sourcing.pins := by
  cases ended with
  | kept _ records => exact records
  | replaced _ copy isNew _ _ _ ends =>
      rcases ends with same | differs
      · cases same
        exact ⟨copy, rfl, isNew.records⟩
      · cases differs

/-- The vendored copy is the old one, the new one, or missing since the second
rename did not take effect. -/
theorem VendorOutcome.vendor_cases (ended : VendorOutcome soft sourcing outcome) :
    (left outcome).vendor = soft.vendor ∨
      (∃ copy ∈ (left outcome).vendor, copy.IsNew sourcing.pins) ∨
      ((left outcome).vendor = none ∧ SecondRenameMissed sourcing) := by
  cases ended with
  | refuses => exact Or.inl rfl
  | kept => exact Or.inl rfl
  | stays => exact Or.inl rfl
  | missing _ _ _ missed => exact Or.inr (Or.inr ⟨rfl, missed⟩)
  | replaced _ copy isNew _ _ _ ends =>
      right
      left
      rcases ends with rfl | rfl
      · exact ⟨copy, rfl, isNew⟩
      · exact ⟨copy, rfl, isNew⟩

/-! ## Histories -/

/-- Both directories are what their markers say, and the vendored copy is whole. -/
structure Sound (soft : Soft) : Prop where
  marked : MarkedComplete soft
  whole : VendorWhole soft

theorem sound_fresh : Sound .fresh := by
  constructor
  case marked =>
    constructor
    · intro copy none
      cases none
    · intro copy none
      cases none
  case whole =>
    intro copy none
    cases none

/-- The markers are true after a sourcing exactly when its commands end well. -/
theorem markedComplete_iff (marked : MarkedComplete soft) :
    MarkedComplete (sourced soft sourcing) ↔ EndsWell soft sourcing := by
  rw [sourced]
  rcases build_cases soft sourcing with
    ⟨isReady, ready, envEnded, builds⟩ | ⟨unready, stopped, envEnded, stops⟩
  · have vendorEnded := vendor_outcome ready sourcing
    have sameVendor : ready.vendor = soft.vendor := envEnded.vendor_eq
    have env := envEnded.truthful_iff marked.env
    have vendor := vendorEnded.truthful_iff (by rw [sameVendor]; exact marked.vendor)
    rw [builds]
    constructor
    · rintro ⟨envTrue, vendorTrue⟩
      rw [vendorEnded.dsprodEnv_eq] at envTrue
      obtain ⟨removal, marking⟩ := env.mp envTrue
      exact ⟨removal, marking, fun _ => sameVendor ▸ vendor.mp vendorTrue⟩
    · rintro ⟨removal, marking, compiled⟩
      constructor
      · rw [vendorEnded.dsprodEnv_eq]
        exact env.mpr ⟨removal, marking⟩
      · exact vendor.mpr (sameVendor.symm ▸ compiled isReady)
  · have sameVendor : stopped.vendor = soft.vendor := envEnded.vendor_eq
    have env := envEnded.truthful_iff marked.env
    rw [stops]
    constructor
    · rintro ⟨envTrue, _⟩
      obtain ⟨removal, marking⟩ := env.mp envTrue
      exact ⟨removal, marking, fun isReady => absurd isReady unready⟩
    · rintro ⟨removal, marking, _⟩
      constructor
      · exact env.mpr ⟨removal, marking⟩
      · change ∀ copy ∈ stopped.vendor, copy.Truthful
        rw [sameVendor]
        exact marked.vendor

/-- A sourcing keeps its promise exactly when its commands end well. -/
theorem sourcesSoundly_iff (sound : Sound soft) :
    SourcesSoundly soft sourcing ↔ EndsWell soft sourcing := by
  constructor
  · exact fun soundly => (markedComplete_iff sound.marked).mp soundly.marked
  intro endsWell
  have marked := (markedComplete_iff sound.marked).mpr endsWell
  rcases build_cases soft sourcing with
    ⟨_, ready, envEnded, builds⟩ | ⟨_, stopped, envEnded, stops⟩
  · have vendorEnded := vendor_outcome ready sourcing
    have sameVendor : ready.vendor = soft.vendor := envEnded.vendor_eq
    have after : sourced soft sourcing = left (vendor sourcing ready) := by
      rw [sourced, builds]
    constructor
    case marked => exact marked
    case envKept =>
      intro records
      rw [after, vendorEnded.dsprodEnv_eq]
      exact congrArg Soft.dsprodEnv (envEnded.kept_of_records records)
    case vendorKept =>
      intro records
      rw [after, ← sameVendor]
      exact vendorEnded.kept_of_records (sameVendor ▸ records)
    case whole =>
      rw [after]
      apply vendorEnded.whole
      rw [VendorWhole, sameVendor]
      exact sound.whole
    case vendor =>
      rw [after, ← sameVendor]
      exact vendorEnded.vendor_cases
    case batch =>
      intro batch
      rw [after, vendorEnded.kept_of_batch batch]
      exact envEnded.kept_of_batch batch
    case succeeds =>
      intro result isResult
      rw [builds] at isResult
      rw [isResult] at vendorEnded
      constructor
      · rw [show result.dsprodEnv = ready.dsprodEnv from vendorEnded.dsprodEnv_eq]
        exact envEnded.records_of_ok
      · exact vendorEnded.records_of_ok
  · have after : sourced soft sourcing = stopped := by
      rw [sourced, stops]
      rfl
    have sameVendor : (sourced soft sourcing).vendor = soft.vendor := by
      rw [after]
      exact envEnded.vendor_eq
    constructor
    case marked => exact marked
    case envKept =>
      intro records
      rw [after]
      exact congrArg Soft.dsprodEnv (envEnded.kept_of_records records)
    case vendorKept => exact fun _ => sameVendor
    case whole =>
      rw [VendorWhole, sameVendor]
      exact sound.whole
    case vendor => exact Or.inl sameVendor
    case batch =>
      intro batch
      rw [after]
      exact envEnded.kept_of_batch batch
    case succeeds =>
      intro result isResult
      rw [stops] at isResult
      cases isResult

end Exact

/-- In every history of sourcings from a fresh clone, all of them keep their
promise exactly when the commands of all of them end well. -/
theorem sourcesSoundly_along_iff (history : List Sourcing) :
    Along sourced SourcesSoundly .fresh history ↔ Along sourced EndsWell .fresh history := by
  have exact : ∀ soft sourcing, Sound soft → True →
      (SourcesSoundly soft sourcing ↔ EndsWell soft sourcing) :=
    fun soft sourcing sound _ => sourcesSoundly_iff sound
  apply along_iff_of_invariant exact _ sound_fresh fun _ _ => trivial
  intro soft sourcing sound _ endsWell
  have soundly := (exact soft sourcing sound trivial).mpr endsWell
  exact ⟨soundly.marked, soundly.whole⟩

/-! ## A removal that is interrupted -/

/-- The pins of `env.sh`, with some release of law. -/
def pinsOf (law : Pin) : Pins where
  pip := ⟨"pip==26.0.1", by decide, by decide⟩
  packages := [⟨"luigi==3.7.3", by decide, by decide⟩, law]

/-- The pins as they are. -/
def currentPins : Pins :=
  pinsOf ⟨"law==0.1.21", by decide, by decide⟩

/-- The pins with law's moved. -/
def movedPins : Pins :=
  pinsOf ⟨"law==0.1.22", by decide, by decide⟩

/-- An area is built, the pin of law moves, and the removal of the old
`dsprod_env` is interrupted before it comes to the marker. -/
def interruptedRemoval : List Sourcing :=
  [{ pins := currentPins },
    { pins := movedPins, removeEnv := .stopped (.left true false) }]

/-- The marker records the pins it was built from, and its files are gone. -/
theorem not_sourcesSoundly_interruptedRemoval :
    ¬Along sourced SourcesSoundly .fresh interruptedRemoval := by
  rintro ⟨_, soundly, _⟩
  have broken : (sourced (sourced .fresh { pins := currentPins })
      { pins := movedPins, removeEnv := .stopped (.left true false) }).dsprodEnv =
        some ⟨.unfinished, some currentPins.marker⟩ := by
    decide +kernel
  have whole := soundly.marked.env _ broken currentPins (records_marker_iff.mpr rfl)
  cases whole

/-- When the pin moves back, the broken environment is taken for a built one. -/
example : (build (run sourced .fresh interruptedRemoval) { pins := currentPins }).isOk = true := by
  decide +kernel

end DSProd.Env
