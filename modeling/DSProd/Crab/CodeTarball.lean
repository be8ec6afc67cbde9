import DSProd.Library.Aside
import DSProd.Library.Text

/-!
# The code that is shipped to CRAB

`build_code_tarball`: `tar` writes the archive beside the one that CRAB ships,
the archive is verified instead of trusting the exit code of `tar`, and renamed.
The file that is written has a fixed name, so two drivers that build for the
same local path write to one file.

What exists of the checkout does not change while drivers run.  A `tar` writes
to the file of the name it was given, also where another driver has renamed the
file it opened.
-/

namespace DSProd.Crab

open DSProd.Library
open DSProd.Library.Aside

/-! ## Verifying -/

/-- `includes`: the entries of a checkout that are shipped. -/
def codeIncludes : List String :=
  ["dsprod", "models", "config", "env.sh", "bootstrap.sh", "genproductions_scripts", "soft/vendor"]

/-- `present`: the entries that there are. -/
def presentEntries (isThere : String → Bool) : List String :=
  codeIncludes.filter isThere

/-- `tar -tzf`: its output, or what it says when it fails, also where there is no file. -/
structure Tar (Archive : Type*) where
  list : Archive → Except String String
  missing : String

/-- `name.split("/", 1)[0]`. -/
def topLevel (name : List Char) : List Char :=
  name.takeWhile (· ≠ '/')

section Verifying

variable {Archive : Type*} (tar : Tar Archive)

/-- What `tar -tzf` says of a file. -/
def Tar.listing (found : Option Archive) : Except String String :=
  match found with
  | none => .error tar.missing
  | some archive => tar.list archive

/-- The entries of which an archive has nothing. -/
def notArchived (listing : String) (expected : List String) : List String :=
  let top := ((listing.toList.splitOn '\n').filter (· ≠ [])).map topLevel
  expected.filter fun entry => topLevel entry.toList ∉ top

/-- `_verify_code_tarball`. -/
def verifyCodeTarball (path : String) (found : Option Archive) (expected : List String) :
    Except String Unit :=
  match tar.listing found with
  | .error stderr =>
      .error ("the CRAB code tarball " ++ path ++ " is not readable:\n" ++ Text.strip stderr)
  | .ok listing =>
      let missing := notArchived listing expected
      if missing ≠ [] then
        .error ("the CRAB code tarball " ++ path ++ " is incomplete, missing: " ++
          ", ".intercalate missing)
      else .ok ()

/-- An archive that can be read and has something of every entry that is expected. -/
def CompleteArchive (expected : List String) (archive : Archive) : Prop :=
  ∃ listing, tar.list archive = .ok listing ∧ ∀ entry ∈ expected,
    ∃ name ∈ listing.toList.splitOn '\n', name ≠ [] ∧ topLevel name = topLevel entry.toList

theorem notArchived_eq_nil_iff {listing : String} {expected : List String} :
    notArchived listing expected = [] ↔ ∀ entry ∈ expected,
      ∃ name ∈ listing.toList.splitOn '\n', name ≠ [] ∧
        topLevel name = topLevel entry.toList := by
  rw [notArchived, List.filter_eq_nil_iff]
  constructor
  · intro archived entry expects
    have found := archived entry expects
    rw [decide_eq_true_iff, not_not, List.mem_map] at found
    obtain ⟨name, listed, same⟩ := found
    rw [List.mem_filter, decide_eq_true_iff] at listed
    exact ⟨name, listed.1, listed.2, same⟩
  · intro archived entry expects
    obtain ⟨name, listed, nonempty, same⟩ := archived entry expects
    rw [decide_eq_true_iff, not_not, List.mem_map]
    exact ⟨name, List.mem_filter.mpr ⟨listed, decide_eq_true nonempty⟩, same⟩

theorem verifyCodeTarball_eq_ok_iff {path : String} {found : Option Archive}
    {expected : List String} :
    verifyCodeTarball tar path found expected = .ok () ↔
      ∃ archive, found = some archive ∧ CompleteArchive tar expected archive := by
  rw [verifyCodeTarball]
  cases found with
  | none => simp [Tar.listing]
  | some archive =>
      rw [Tar.listing]
      cases listed : tar.list archive with
      | error stderr => simp [CompleteArchive, listed]
      | ok listing => simp [CompleteArchive, listed, ← notArchived_eq_nil_iff]

end Verifying

/-! ## Building -/

/-- Where the build of a driver is: `tar` runs, it has ended, or the archive is verified. -/
inductive BuildPhase where
  | tarring
  | tarred
  | verified
  deriving DecidableEq

/-- A call of `build_code_tarball` for a local path. -/
structure Build where
  localPath : String
  phase : BuildPhase
  deriving DecidableEq

/-- `out_path`. -/
def outPath (localPath : String) : String :=
  localPath ++ "/dsprod_code.tar.gz"

/-- `tmp_path`. -/
def tmpPath (localPath : String) : String :=
  outPath localPath ++ ".tmp"

/-- The files, the builds that are running, and `_code_tarball_path` of each driver. -/
structure Drivers (Archive : Type*) where
  files : String → Option Archive
  builds : ℕ → Option Build
  tarball : ℕ → Option String

/-- What happens to a driver: it asks for the tarball, its `tar` has written so
much or ends, it verifies or renames what there is, or it dies and its `tar`
with it.  The exit code of a `tar` that a signal ends is negative.  The removal
of a file may fail, which is ignored. -/
inductive DriverEvent (Archive : Type*) where
  | asks (driver : ℕ) (localPath : String)
  | writes (driver : ℕ) (content : Archive)
  | ends (driver : ℕ) (returnCode : ℤ) (stderr : String) (removed : Bool)
  | verifies (driver : ℕ) (removed : Bool)
  | renames (driver : ℕ)
  | dies (driver : ℕ)

section Building

variable {Archive : Type*} (tar : Tar Archive) (present : List String)

/-- `_remove_quietly`. -/
def removeQuietly (files : String → Option Archive) (path : String) (removed : Bool) :
    String → Option Archive :=
  if removed then Function.update files path none else files

/-- The state an event leaves.  An event that the driver is not ready for leaves all as it is. -/
def Drivers.step (drivers : Drivers Archive) : DriverEvent Archive → Drivers Archive
  | .asks driver localPath =>
      match drivers.tarball driver, drivers.builds driver with
      | none, none =>
          { drivers with
            builds := Function.update drivers.builds driver (some ⟨localPath, .tarring⟩) }
      | _, _ => drivers
  | .writes driver content =>
      match drivers.builds driver with
      | some ⟨localPath, .tarring⟩ =>
          { drivers with
            files := Function.update drivers.files (tmpPath localPath) (some content) }
      | _ => drivers
  | .ends driver returnCode _ removed =>
      match drivers.builds driver with
      | some ⟨localPath, .tarring⟩ =>
          -- 1 is a file that changed while it was read, which is archived all the same
          if 2 ≤ returnCode then
            { drivers with
              files := removeQuietly drivers.files (tmpPath localPath) removed
              builds := Function.update drivers.builds driver none }
          else
            { drivers with
              builds := Function.update drivers.builds driver (some ⟨localPath, .tarred⟩) }
      | _ => drivers
  | .verifies driver removed =>
      match drivers.builds driver with
      | some ⟨localPath, .tarred⟩ =>
          match verifyCodeTarball tar (tmpPath localPath) (drivers.files (tmpPath localPath))
              present with
          | .ok () =>
              { drivers with
                builds := Function.update drivers.builds driver (some ⟨localPath, .verified⟩) }
          | .error _ =>
              { drivers with
                files := removeQuietly drivers.files (tmpPath localPath) removed
                builds := Function.update drivers.builds driver none }
      | _ => drivers
  | .renames driver =>
      match drivers.builds driver with
      | some ⟨localPath, .verified⟩ =>
          match drivers.files (tmpPath localPath) with
          | some archive =>
              { files := Function.update
                  (Function.update drivers.files (outPath localPath) (some archive))
                  (tmpPath localPath) none
                builds := Function.update drivers.builds driver none
                tarball := Function.update drivers.tarball driver (some (outPath localPath)) }
          | none => { drivers with builds := Function.update drivers.builds driver none }
      | _ => drivers
  | .dies driver =>
      { drivers with
        builds := Function.update drivers.builds driver none
        tarball := Function.update drivers.tarball driver none }

/-- What a call of `_code_tarball` comes to where an event ends it. -/
def Drivers.answer (drivers : Drivers Archive) :
    DriverEvent Archive → Option (Except String String)
  | .asks driver _ => (drivers.tarball driver).map .ok
  | .ends driver returnCode stderr _ =>
      match drivers.builds driver with
      | some ⟨_, .tarring⟩ =>
          if 2 ≤ returnCode then
            some (.error ("could not build the CRAB code tarball (tar exit " ++
              toString returnCode ++ "):\n" ++ Text.strip stderr))
          else none
      | _ => none
  | .verifies driver _ =>
      match drivers.builds driver with
      | some ⟨localPath, .tarred⟩ =>
          match verifyCodeTarball tar (tmpPath localPath) (drivers.files (tmpPath localPath))
              present with
          | .ok () => none
          | .error message => some (.error message)
      | _ => none
  | .renames driver =>
      match drivers.builds driver with
      | some ⟨localPath, .verified⟩ =>
          match drivers.files (tmpPath localPath) with
          | some _ => some (.ok (outPath localPath))
          | none =>
              some (.error ("[Errno 2] No such file or directory: '" ++ tmpPath localPath ++
                "' -> '" ++ outPath localPath ++ "'"))
      | _ => none
  | _ => none

/-! ## Builds as writers of files -/

/-- A driver that builds for a local path. -/
abbrev Builder := ℕ × String

theorem tmpPath_injective {localPath other : String} (same : tmpPath localPath = tmpPath other) :
    localPath = other := by
  rw [tmpPath, tmpPath, outPath, outPath, String.append_left_inj, String.append_left_inj] at same
  exact same

theorem tmpPath_ne_outPath (localPath other : String) : tmpPath localPath ≠ outPath other := by
  intro same
  have last := congrArg (fun path : String => path.toList.getLast?) same
  simp [tmpPath, outPath] at last

/-- Where the archives are written, and where they are shipped from. -/
def tarballLayout : Layout Builder String where
  aside builder := tmpPath builder.2
  target builder := outPath builder.2
  separate builder other := tmpPath_ne_outPath builder.2 other.2

/-- The files, and the drivers that have verified what they built. -/
def Drivers.desk (drivers : Drivers Archive) : Desk Builder String Archive where
  files := drivers.files
  ready builder := drivers.builds builder.1 = some ⟨builder.2, .verified⟩

/-- What an event does to the files. -/
def Drivers.moves (drivers : Drivers Archive) : DriverEvent Archive → List (Move Builder Archive)
  | .asks _ _ => []
  | .writes driver content =>
      match drivers.builds driver with
      | some ⟨localPath, .tarring⟩ => [.put (driver, localPath) (some content)]
      | _ => []
  | .ends driver returnCode _ removed =>
      match drivers.builds driver with
      | some ⟨localPath, .tarring⟩ =>
          if 2 ≤ returnCode ∧ removed then [.put (driver, localPath) none] else []
      | _ => []
  | .verifies driver removed =>
      match drivers.builds driver with
      | some ⟨localPath, .tarred⟩ =>
          match verifyCodeTarball tar (tmpPath localPath) (drivers.files (tmpPath localPath))
              present with
          | .ok () => [.approve (driver, localPath)]
          | .error _ => if removed then [.put (driver, localPath) none] else []
      | _ => []
  | .renames driver =>
      match drivers.builds driver with
      | some ⟨localPath, .verified⟩ => [.publish (driver, localPath)]
      | _ => []
  | .dies driver =>
      match drivers.builds driver with
      | some ⟨localPath, _⟩ => [.leave (driver, localPath)]
      | none => []

end Building

section Refinement

variable {Archive : Type*} {tar : Tar Archive} {present : List String} {drivers : Drivers Archive}

section Ready

variable {driver : ℕ} {localPath : String} {phase : BuildPhase}

/-- A driver that goes on to something else is not ready. -/
theorem ready_unverified (found : drivers.builds driver = some ⟨localPath, phase⟩)
    (build : Option Build) (unverified : ∀ path, build ≠ some ⟨path, .verified⟩) :
    (fun builder : Builder =>
        decide (Function.update drivers.builds driver build builder.1 =
          some ⟨builder.2, .verified⟩)) =
      Function.update drivers.desk.ready (driver, localPath) false := by
  funext ⟨other, path⟩
  dsimp only
  by_cases same : other = driver
  · rw [same, Function.update_self, decide_eq_false (unverified path)]
    by_cases samePath : path = localPath
    · rw [samePath, Function.update_self]
    · rw [Function.update_of_ne (by simp [samePath])]
      apply Eq.symm
      apply decide_eq_false
      dsimp only
      rw [found]
      simp [Ne.symm samePath]
  · rw [Function.update_of_ne same, Function.update_of_ne (by simp [same])]
    rfl

/-- A driver that has not verified was not ready before either. -/
theorem update_ready_false (found : drivers.builds driver = some ⟨localPath, phase⟩)
    (unverified : phase ≠ .verified) :
    Function.update drivers.desk.ready (driver, localPath) false = drivers.desk.ready := by
  apply Function.update_eq_self_iff.mpr
  apply Eq.symm
  apply decide_eq_false
  dsimp only
  rw [found]
  simp [unverified]

theorem ready_verified (found : drivers.builds driver = some ⟨localPath, phase⟩) :
    (fun builder : Builder =>
        decide (Function.update drivers.builds driver (some ⟨localPath, .verified⟩) builder.1 =
          some ⟨builder.2, .verified⟩)) =
      Function.update drivers.desk.ready (driver, localPath) true := by
  funext ⟨other, path⟩
  dsimp only
  by_cases same : other = driver
  · rw [same, Function.update_self]
    by_cases samePath : path = localPath
    · rw [samePath, Function.update_self, decide_eq_true rfl]
    · rw [Function.update_of_ne (by simp [samePath])]
      rw [decide_eq_false (by simp [Ne.symm samePath])]
      apply Eq.symm
      apply decide_eq_false
      dsimp only
      rw [found]
      simp [Ne.symm samePath]
  · rw [Function.update_of_ne same, Function.update_of_ne (by simp [same])]
    rfl

end Ready

theorem ready_idle {driver : ℕ} (idle : drivers.builds driver = none) (build : Option Build)
    (unverified : ∀ path, build ≠ some ⟨path, .verified⟩) :
    (fun builder : Builder =>
        decide (Function.update drivers.builds driver build builder.1 =
          some ⟨builder.2, .verified⟩)) = drivers.desk.ready := by
  funext ⟨other, path⟩
  dsimp only
  by_cases same : other = driver
  · rw [same, Function.update_self, decide_eq_false (unverified path)]
    apply Eq.symm
    apply decide_eq_false
    dsimp only
    rw [idle]
    simp
  · rw [Function.update_of_ne same]
    rfl

/-- The builds do to the files what writers do that replace files whole. -/
theorem desk_step (event : DriverEvent Archive) :
    (drivers.step tar present event).desk =
      run (Desk.step tarballLayout) drivers.desk (drivers.moves tar present event) := by
  cases event with
  | asks driver localPath =>
      rw [Drivers.step, Drivers.moves]
      split
      · rename_i idle
        exact congrArg (Desk.mk drivers.files) (ready_idle idle _ (by simp))
      · rfl
  | writes driver content =>
      rw [Drivers.step, Drivers.moves]
      split
      · rename_i localPath found
        exact congrArg (Desk.mk _) (update_ready_false found (by decide)).symm
      · rfl
  | ends driver returnCode stderr removed =>
      rw [Drivers.step, Drivers.moves]
      split
      · rename_i localPath found
        by_cases failed : 2 ≤ returnCode
        · have ended := ready_unverified found none (by simp)
          cases removed with
          | true =>
              rw [if_pos failed, if_pos ⟨failed, rfl⟩]
              exact congrArg (Desk.mk _) ended
          | false =>
              rw [if_pos failed, if_neg (by simp)]
              exact congrArg (Desk.mk _) (ended.trans (update_ready_false found (by decide)))
        · rw [if_neg failed, if_neg (fun both => failed both.1)]
          have goesOn := ready_unverified found (some ⟨localPath, .tarred⟩) (by simp)
          exact congrArg (Desk.mk _) (goesOn.trans (update_ready_false found (by decide)))
      · rfl
  | verifies driver removed =>
      rw [Drivers.step, Drivers.moves]
      split
      · rename_i localPath found
        split
        · exact congrArg (Desk.mk _) (ready_verified found)
        · have ended := ready_unverified found none (by simp)
          cases removed with
          | true => exact congrArg (Desk.mk _) ended
          | false => exact congrArg (Desk.mk _) (ended.trans (update_ready_false found (by decide)))
      · rfl
  | renames driver =>
      rw [Drivers.step, Drivers.moves]
      split
      · rename_i localPath found
        have ended := ready_unverified found none (by simp)
        have isReady : drivers.desk.ready (driver, localPath) = true := decide_eq_true found
        rw [run_cons, run_nil, Desk.step, isReady]
        split
        · rename_i archive written
          rw [if_pos ⟨rfl, by simp [Drivers.desk, tarballLayout, written]⟩]
          have written' : drivers.desk.files (tarballLayout.aside (driver, localPath)) =
              some archive := written
          rw [written']
          exact congrArg (Desk.mk _) ended
        · rename_i gone
          rw [if_neg (by simp [Drivers.desk, tarballLayout, gone])]
          exact congrArg (Desk.mk _) ended
      · rfl
  | dies driver =>
      rw [Drivers.step, Drivers.moves]
      split
      · rename_i localPath phase found
        exact congrArg (Desk.mk _) (ready_unverified found none (by simp))
      · rename_i idle
        exact congrArg (Desk.mk _) (ready_idle idle _ (by simp))

/-- No build begins for a local path for which another driver builds. -/
def Undisturbed (drivers : Drivers Archive) : DriverEvent Archive → Prop
  | .asks driver localPath =>
      drivers.tarball driver = none → drivers.builds driver = none →
        ∀ other build, drivers.builds other = some build → build.localPath ≠ localPath
  | _ => True

/-- No two drivers build for one local path. -/
def Apart (drivers : Drivers Archive) : Prop :=
  ∀ driver other build otherBuild, drivers.builds driver = some build →
    drivers.builds other = some otherBuild → build.localPath = otherBuild.localPath →
      driver = other

/-- A build that is running was, or the driver has just asked for it. -/
theorem builds_step {event : DriverEvent Archive} {driver : ℕ} {build : Build}
    (running : (drivers.step tar present event).builds driver = some build) :
    (∃ earlier, drivers.builds driver = some earlier ∧ earlier.localPath = build.localPath) ∨
      event = .asks driver build.localPath ∧ drivers.tarball driver = none ∧
        drivers.builds driver = none := by
  have goesOn : ∀ {other : ℕ} {next earlier : Build},
      Function.update drivers.builds other (some next) driver = some build →
      drivers.builds other = some earlier → earlier.localPath = next.localPath →
      ∃ earlier, drivers.builds driver = some earlier ∧ earlier.localPath = build.localPath := by
    intro other next earlier updated found same
    by_cases itself : driver = other
    · rw [itself, Function.update_self] at updated
      cases updated
      exact ⟨earlier, itself ▸ found, same⟩
    · rw [Function.update_of_ne itself] at updated
      exact ⟨build, updated, rfl⟩
  have ends : ∀ {other : ℕ}, Function.update drivers.builds other none driver = some build →
      ∃ earlier, drivers.builds driver = some earlier ∧ earlier.localPath = build.localPath := by
    intro other updated
    by_cases itself : driver = other
    · rw [itself, Function.update_self] at updated
      cases updated
    · rw [Function.update_of_ne itself] at updated
      exact ⟨build, updated, rfl⟩
  have stays : drivers.builds driver = some build →
      ∃ earlier, drivers.builds driver = some earlier ∧ earlier.localPath = build.localPath :=
    fun same => ⟨build, same, rfl⟩
  revert running
  cases event with
  | asks other localPath =>
      rw [Drivers.step]
      split
      · rename_i without idle
        intro running
        by_cases itself : driver = other
        · dsimp only at running
          rw [itself, Function.update_self] at running
          cases running
          exact Or.inr ⟨by rw [itself], itself ▸ without, itself ▸ idle⟩
        · dsimp only at running
          rw [Function.update_of_ne itself] at running
          exact Or.inl (stays running)
      · exact fun running => Or.inl (stays running)
  | writes other content =>
      rw [Drivers.step]
      split <;> exact fun running => Or.inl (stays running)
  | ends other returnCode stderr removed =>
      rw [Drivers.step]
      split
      · rename_i found
        split
        · exact fun running => Or.inl (ends running)
        · exact fun running => Or.inl (goesOn running found rfl)
      · exact fun running => Or.inl (stays running)
  | verifies other removed =>
      rw [Drivers.step]
      split
      · rename_i found
        split
        · exact fun running => Or.inl (goesOn running found rfl)
        · exact fun running => Or.inl (ends running)
      · exact fun running => Or.inl (stays running)
  | renames other =>
      rw [Drivers.step]
      split
      · split <;> exact fun running => Or.inl (ends running)
      · exact fun running => Or.inl (stays running)
  | dies other => exact fun running => Or.inl (ends running)

theorem Apart.step {event : DriverEvent Archive} (apart : Apart drivers)
    (undisturbed : Undisturbed drivers event) : Apart (drivers.step tar present event) := by
  intro driver other build otherBuild running otherRunning same
  rcases builds_step running with ⟨earlier, found, earlierPath⟩ | ⟨rfl, without, idle⟩
  · rcases builds_step otherRunning with ⟨otherEarlier, otherFound, otherPath⟩ |
        ⟨rfl, without, idle⟩
    · exact apart driver other earlier otherEarlier found otherFound
        (earlierPath.trans (same.trans otherPath.symm))
    · exact absurd (earlierPath.trans same) (undisturbed without idle driver earlier found)
  · rcases builds_step otherRunning with ⟨otherEarlier, otherFound, otherPath⟩ | ⟨asked, -, -⟩
    · exact absurd (otherPath.trans same.symm)
        (undisturbed without idle other otherEarlier otherFound)
    · injection asked

theorem harmless_moves {event : DriverEvent Archive} (apart : Apart drivers) :
    Along (Desk.step tarballLayout) (Harmless tarballLayout (CompleteArchive tar present))
      drivers.desk (drivers.moves tar present event) := by
  cases event with
  | asks driver localPath => trivial
  | writes driver content =>
      rw [Drivers.moves]
      split
      · rename_i localPath found
        refine ⟨fun _ other shared _ => ?_, trivial⟩
        apply decide_eq_false
        rw [tmpPath_injective shared]
        intro verified
        rw [apart other.1 driver _ _ verified found rfl, found] at verified
        cases verified
      · trivial
  | ends driver returnCode stderr removed =>
      rw [Drivers.moves]
      split
      · split
        · exact ⟨fun some => absurd rfl some, trivial⟩
        · trivial
      · trivial
  | verifies driver removed =>
      rw [Drivers.moves]
      split
      · rename_i localPath _
        split
        · rename_i verified
          obtain ⟨archive, found, complete⟩ := (verifyCodeTarball_eq_ok_iff tar).mp verified
          refine ⟨fun content same => ?_, trivial⟩
          have isArchive : drivers.files (tmpPath localPath) = some content := same
          rw [found] at isArchive
          cases isArchive
          exact complete
        · split
          · exact ⟨fun some => absurd rfl some, trivial⟩
          · trivial
      · trivial
  | renames driver =>
      rw [Drivers.moves]
      split
      · exact ⟨trivial, trivial⟩
      · trivial
  | dies driver =>
      rw [Drivers.moves]
      split
      · exact ⟨trivial, trivial⟩
      · trivial

/-- A tarball that a driver has is one it had, or one that it has just verified. -/
theorem tarball_step {event : DriverEvent Archive} {driver : ℕ} {path : String}
    (has : (drivers.step tar present event).tarball driver = some path) :
    drivers.tarball driver = some path ∨
      ∃ localPath archive, drivers.desk.ready (driver, localPath) = true ∧
        drivers.files (tmpPath localPath) = some archive ∧ path = outPath localPath ∧
        (drivers.step tar present event).files path = some archive := by
  revert has
  cases event with
  | asks other localPath =>
      rw [Drivers.step]
      split <;> exact Or.inl
  | writes other content =>
      rw [Drivers.step]
      split <;> exact Or.inl
  | ends other returnCode stderr removed =>
      rw [Drivers.step]
      split
      · split <;> exact Or.inl
      · exact Or.inl
  | verifies other removed =>
      rw [Drivers.step]
      split
      · split <;> exact Or.inl
      · exact Or.inl
  | renames other =>
      rw [Drivers.step]
      split
      · rename_i localPath found
        split
        · rename_i archive written
          dsimp only
          intro has
          by_cases same : driver = other
          · rw [same, Function.update_self] at has
            cases has
            right
            refine ⟨localPath, archive, ?_, written, rfl, ?_⟩
            · rw [same]
              exact decide_eq_true found
            · rw [Function.update_of_ne (tmpPath_ne_outPath _ _).symm, Function.update_self]
          · rw [Function.update_of_ne same] at has
            exact Or.inl has
        · exact Or.inl
      · exact Or.inl
  | dies other =>
      rw [Drivers.step]
      dsimp only
      intro has
      by_cases same : driver = other
      · rw [same, Function.update_self] at has
        cases has
      · rw [Function.update_of_ne same] at has
        exact Or.inl has

/-- The archives that may be shipped are complete, unless they were there before. -/
structure ShipsWhole (tar : Tar Archive) (present : List String)
    (initial : String → Option Archive) (drivers : Drivers Archive) : Prop where
  apart : Apart drivers
  safe : Safe tarballLayout (CompleteArchive tar present) initial drivers.desk
  shipped : ∀ driver path, drivers.tarball driver = some path →
    ∃ localPath archive, path = outPath localPath ∧ drivers.files path = some archive ∧
      CompleteArchive tar present archive

theorem ShipsWhole.step {initial : String → Option Archive} {event : DriverEvent Archive}
    (whole : ShipsWhole tar present initial drivers) (undisturbed : Undisturbed drivers event) :
    ShipsWhole tar present initial (drivers.step tar present event) := by
  have harmless : Along (Desk.step tarballLayout)
      (Harmless tarballLayout (CompleteArchive tar present)) drivers.desk
      (drivers.moves tar present event) := harmless_moves whole.apart
  have keeps : ∀ before, Safe tarballLayout (CompleteArchive tar present) before drivers.desk →
      Safe tarballLayout (CompleteArchive tar present) before
        (drivers.step tar present event).desk := by
    intro before safe
    rw [desk_step]
    exact safe.run harmless
  constructor
  · exact whole.apart.step undisturbed
  · exact keeps initial whole.safe
  · intro driver path has
    rcases tarball_step has with had | ⟨localPath, archive, isReady, written, rfl, renamed⟩
    · obtain ⟨localPath, archive, rfl, found, complete⟩ := whole.shipped driver path had
      -- since the state before the step, the target is as it was or good
      have since := keeps drivers.files whole.safe.restart
      rcases since.target (driver, localPath) with same | ⟨other, found', complete'⟩
      · exact ⟨localPath, archive, rfl, same.trans found, complete⟩
      · exact ⟨localPath, other, rfl, found', complete'⟩
    · exact ⟨localPath, archive, rfl, renamed,
        whole.safe.approved (driver, localPath) isReady archive written⟩

end Refinement

/-- No driver has begun. -/
def Drivers.idle {Archive : Type*} (files : String → Option Archive) : Drivers Archive :=
  ⟨files, fun _ => none, fun _ => none⟩

/-- However the drivers take turns and wherever they die, what a driver ships is
an archive that can be read and holds something of every entry, and the file at
a local path is such an archive or the one that was there before, as long as no
build begins for a local path for which another driver builds. -/
theorem tarballs_whole {Archive : Type*} (tar : Tar Archive) (isThere : String → Bool)
    (files : String → Option Archive) {events : List (DriverEvent Archive)}
    (undisturbed : Along (Drivers.step tar (presentEntries isThere)) Undisturbed
      (Drivers.idle files) events) :
    (∀ driver path, (run (Drivers.step tar (presentEntries isThere)) (Drivers.idle files)
          events).tarball driver = some path →
      ∃ archive, (run (Drivers.step tar (presentEntries isThere)) (Drivers.idle files)
          events).files path = some archive ∧
        CompleteArchive tar (presentEntries isThere) archive) ∧
    ∀ localPath, (run (Drivers.step tar (presentEntries isThere)) (Drivers.idle files)
          events).files (outPath localPath) = files (outPath localPath) ∨
      ∃ archive, (run (Drivers.step tar (presentEntries isThere)) (Drivers.idle files)
          events).files (outPath localPath) = some archive ∧
        CompleteArchive tar (presentEntries isThere) archive := by
  have initially : ShipsWhole tar (presentEntries isThere) files (Drivers.idle files) := by
    constructor
    · intro driver other build otherBuild running
      cases running
    · have unready : ∀ builder, (Drivers.idle files).desk.ready builder = false := by
        intro builder
        simp [Drivers.idle, Drivers.desk]
      exact Safe.unapproved unready
    · intro driver path has
      cases has
  have whole := invariant_run_of_along (fun _ _ holds allowed => holds.step allowed) initially
    undisturbed
  constructor
  · intro driver path has
    obtain ⟨localPath, archive, _, found, complete⟩ := whole.shipped driver path has
    exact ⟨archive, found, complete⟩
  · exact fun localPath => whole.safe.target (0, localPath)

/-- Archives that are the lists of their entries. -/
def plainTar : Tar (List String) where
  list entries := .ok ("\n".intercalate entries)
  missing := "tar: cannot open"

/-- A checkout with two of the entries. -/
def smallCheckout (entry : String) : Bool :=
  entry ∈ ["dsprod", "config"]

/-- A driver whose `tar` has met a file that changed, and another at the same work elsewhere. -/
def twoBuilds (otherPath : String) : List (DriverEvent (List String)) :=
  [.asks 0 "a", .writes 0 ["dsprod/crab.py"], .writes 0 ["dsprod/crab.py", "config/global.yaml"],
    .ends 0 1 "file changed as we read it" true, .verifies 0 true, .asks 1 otherPath,
    .writes 1 ["dsprod/crab.py"], .renames 0]

/-- The state after the two builds. -/
def afterTwoBuilds (otherPath : String) : Drivers (List String) :=
  run (Drivers.step plainTar (presentEntries smallCheckout)) (Drivers.idle fun _ => none)
    (twoBuilds otherPath)

/-- Two drivers with local paths of their own ship whole archives.  With one
local path, what is shipped may be what the other has just begun. -/
theorem tarballs_whole_twoBuilds :
    (∃ archive, (afterTwoBuilds "b").files "a/dsprod_code.tar.gz" = some archive ∧
      CompleteArchive plainTar (presentEntries smallCheckout) archive) ∧
    ((afterTwoBuilds "a").tarball 0 = some "a/dsprod_code.tar.gz" ∧
      ∀ archive, (afterTwoBuilds "a").files "a/dsprod_code.tar.gz" = some archive →
          ¬CompleteArchive plainTar (presentEntries smallCheckout) archive) := by
  constructor
  · have undisturbed : Along (Drivers.step plainTar (presentEntries smallCheckout)) Undisturbed
        (Drivers.idle fun _ => none) (twoBuilds "b") := by
      refine ⟨?_, trivial, trivial, trivial, trivial, ?_, trivial, trivial, trivial⟩
      · intro _ _ other build running
        cases running
      · rintro _ _ (_ | other) build running
        · cases running
          decide
        · cases running
    exact (tarballs_whole plainTar smallCheckout _ undisturbed).1 0 "a/dsprod_code.tar.gz"
      (by decide)
  · refine ⟨by decide, fun archive shipped complete => ?_⟩
    have begun : (afterTwoBuilds "a").files "a/dsprod_code.tar.gz" = some ["dsprod/crab.py"] := by
      decide
    rw [begun] at shipped
    cases shipped
    obtain ⟨listing, listed, nothing⟩ := complete
    cases listed
    exact absurd nothing (by decide)

end DSProd.Crab
