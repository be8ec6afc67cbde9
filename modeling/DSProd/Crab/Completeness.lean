import DSProd.Library.Run
import DSProd.Storage.Freshness
import DSProd.Storage.StaticTree

/-!
# What CRAB's finished jobs are judged on

`crab_check_job_completeness` is called once in each round of the poll loop,
after the status query: it empties the cached listings, and what the round then
asks about the outputs of the jobs that CRAB reports as finished is answered
from there on.  Which outputs it asks for, in which order, and what it makes of
the answers is not settled here.  Meanwhile the jobs go on writing, and between
two rounds anything may be asked of the storage through the same cache.
-/

namespace DSProd.Crab

open DSProd.Library
open DSProd.Library.Action
open DSProd.Storage
open DSProd.Storage.GFALFileInterface

/-- A round of the poll loop: the clock and the answers of the storage, the trees
behind these, and the calls that follow `crab_check_job_completeness`. -/
structure CheckRound where
  env : Environment
  trees : ℕ → Tree
  calls : List Call

/-- `expire_path_caches`. -/
def expirePathCaches : GfalAction Unit :=
  Action.modify fun world => { world with cache := Dict.empty }

/-- `crab_check_job_completeness`. -/
def crabCheckJobCompleteness : GfalAction Bool := do
  expirePathCaches
  pure true

/-- An answer of `exists` in a round, and which listings of it were made from the
return of `crab_check_job_completeness` up to the answer. -/
structure ExistsAnswer where
  round : CheckRound
  path : Path
  present : Bool
  opened : ℕ
  closed : ℕ

/-- The cache, and the answers of the rounds so far, the latest first. -/
structure Polling where
  world : World
  answers : List ExistsAnswer

/-- A call of a round, which may raise. -/
def makeCall (round : CheckRound) (opened : ℕ) (state : Polling) : Call → Polling
  | .existsPath path =>
      match existsPath round.env path state.world with
      | (.ok present, after) =>
          { world := after
            answers := ⟨round, path, present, opened, after.listings⟩ :: state.answers }
      | (.error _, after) => { state with world := after }
  | .listdir path silent => { state with world := (listdir round.env path silent state.world).2 }

/-- A round of the poll loop, after its status query. -/
def checkRound (state : Polling) (round : CheckRound) : Polling :=
  let opened := (crabCheckJobCompleteness state.world).2
  run (makeCall round opened.listings) { state with world := opened } round.calls

/-- What happens: a round, or other uses of the storage, which may leave
anything in the cache. -/
inductive CheckEvent where
  | round (round : CheckRound)
  | elsewhere (world : World)

/-- One event. -/
def Polling.step (state : Polling) : CheckEvent → Polling
  | .round round => checkRound state round
  | .elsewhere world => { state with world := world }

/-! ## What an answer rests on -/

/-- An answer rests on a listing made since the caches were emptied: what is said
to be there was seen, and what is not was missed, if the round takes no longer
than an entry of the cache is valid. -/
structure ExistsAnswer.Supported (answer : ExistsAnswer) : Prop where
  seen : answer.present = true →
    SeenIn answer.round.trees answer.opened answer.closed (uri answer.round.env answer.path)
  missed : answer.present = false → ∀ start, answer.round.env.Within start →
    MissedIn answer.round.trees answer.opened answer.closed (uri answer.round.env answer.path)

/-- On a storage that loses nothing during a round, what is said to be there is
there from then on, and what is not was not when the round began to ask. -/
structure ExistsAnswer.Lasting (answer : ExistsAnswer) : Prop where
  stays : answer.present = true → ∀ index, answer.closed ≤ index →
    (answer.round.trees index).Contains (uri answer.round.env answer.path)
  lacked : answer.present = false → ∀ start, answer.round.env.Within start →
    ¬(answer.round.trees answer.opened).Contains (uri answer.round.env answer.path)

/-- Nothing is removed from the storage during a round. -/
def CheckRound.LosesNothing (round : CheckRound) : Prop :=
  ∀ path first later, first ≤ later →
    (round.trees first).Contains path → (round.trees later).Contains path

theorem ExistsAnswer.Supported.lasting {answer : ExistsAnswer} (supported : answer.Supported)
    (losesNothing : answer.round.LosesNothing) : answer.Lasting := by
  constructor
  case stays =>
      intro present index late
      obtain ⟨moment, _, before, there⟩ := supported.seen present
      exact losesNothing _ moment index (before.le.trans late) there
  case lacked =>
      intro absent start within there
      obtain ⟨moment, since, _, missing⟩ := supported.missed absent start within
      exact missing (losesNothing _ _ moment since there)

/-- The storage answers truthfully during a round, and each call of it can be
made of every tree. -/
structure CheckRound.Sound (round : CheckRound) : Prop where
  truthful : round.env.TruthfulOver round.trees
  admissible : ∀ call ∈ round.calls, ∀ index, call.Admissible (round.trees index) round.env

/-! ## The calls of a round -/

/-- What is true of the cache in a round, from the call that empties it on. -/
structure Current (round : CheckRound) (opened : ℕ) (world : World) : Prop where
  present : PresentSince round.trees opened world
  absent : ∀ start, round.env.Within start →
    AbsentSince (start + round.env.validityPeriod) round.trees opened world

/-- The caches are emptied, and law is told to ask. -/
theorem crabCheckJobCompleteness_apply (world : World) :
    crabCheckJobCompleteness world = (.ok true, { world with cache := Dict.empty }) :=
  rfl

/-- Right after the caches are emptied nothing is cached. -/
theorem current_crabCheckJobCompleteness (round : CheckRound) (world : World) :
    Current round world.listings (crabCheckJobCompleteness world).2 := by
  rw [crabCheckJobCompleteness_apply]
  constructor
  case present => exact ⟨le_rfl, fun path entry found => by simp at found⟩
  case absent =>
      intro start _
      exact
        { since := le_rfl
          valid := fun path entry found => by simp at found
          absent := fun path entry found => by simp at found
          listed := fun dir entry found => by simp at found }

/-- A question over a current cache leaves it current, and is answered from it. -/
theorem current_existsPath {round : CheckRound} (truthful : round.env.TruthfulOver round.trees)
    {path : Path} (named : path ≠ [])
    (clear : ∀ index, (round.trees index).NoFileAbove (uri round.env path)) {opened : ℕ}
    {world : World} (current : Current round opened world) :
    Current round opened (existsPath round.env path world).2 ∧
      ∀ present, (existsPath round.env path world).1 = .ok present →
        ExistsAnswer.Supported
          ⟨round, path, present, opened, (existsPath round.env path world).2.listings⟩ := by
  have seen := (existsPath_seen truthful named clear).outcome current.present
  have missed := fun start (within : round.env.Within start) =>
    (existsPath_missed truthful within named clear).outcome (current.absent start within)
  refine ⟨⟨seen.1, fun start within => (missed start within).1⟩, fun present answered => ?_⟩
  exact ⟨seen.2 present answered, fun absent start within =>
    (missed start within).2 present answered absent⟩

theorem current_listdir {round : CheckRound} (truthful : round.env.TruthfulOver round.trees)
    {path : Path} (clear : ∀ index, (round.trees index).NoFileAbove (uri round.env path))
    (noFile : ∀ index, (round.trees index).node (uri round.env path) ≠ some .file) (silent : Bool)
    {opened : ℕ} {world : World} (current : Current round opened world) :
    Current round opened (listdir round.env path silent world).2 := by
  constructor
  case present =>
      exact ((observes_presentSince.meets_listdir truthful clear noFile silent).outcome
        current.present).1
  case absent =>
      intro start within
      exact (((observes_absentSince within).meets_listdir truthful clear noFile silent).outcome
        (current.absent start within)).1

/-- A round keeps its cache current, and the answers so far supported. -/
structure Asking (round : CheckRound) (opened : ℕ) (state : Polling) : Prop where
  current : Current round opened state.world
  supported : ∀ answer ∈ state.answers, answer.Supported

theorem asking_makeCall {round : CheckRound} (truthful : round.env.TruthfulOver round.trees)
    {opened : ℕ} (state : Polling) (call : Call) (asking : Asking round opened state)
    (admissible : ∀ index, call.Admissible (round.trees index) round.env) :
    Asking round opened (makeCall round opened state call) := by
  cases call with
  | existsPath path =>
      obtain ⟨current, answered⟩ := current_existsPath truthful (admissible 0).1
        (fun index => (admissible index).2) asking.current
      rw [makeCall]
      cases outcome : existsPath round.env path state.world with
      | mk result after =>
          rw [outcome] at current answered
          cases result with
          | error error => exact ⟨current, asking.supported⟩
          | ok present =>
              exact ⟨current, List.forall_mem_cons.mpr ⟨answered present rfl, asking.supported⟩⟩
  | listdir path silent =>
      refine ⟨?_, asking.supported⟩
      exact current_listdir truthful (fun index => (admissible index).1)
        (fun index => (admissible index).2) silent asking.current

theorem supported_checkRound {state : Polling} {round : CheckRound} (sound : round.Sound)
    (supported : ∀ answer ∈ state.answers, answer.Supported) :
    ∀ answer ∈ (checkRound state round).answers, answer.Supported := by
  have opening : Asking round state.world.listings
      { state with world := (crabCheckJobCompleteness state.world).2 } :=
    ⟨current_crabCheckJobCompleteness round state.world, supported⟩
  have asked := invariant_run_of_mem (asking_makeCall sound.truthful) opening sound.admissible
  exact asked.supported

/-- Whatever is cached when a round begins, whatever is asked in it, and whatever
jobs write meanwhile: an answer rests on a listing made since the round began to
ask, and lasts where nothing is removed. -/
theorem answers_rest_on_current_listings (world : World) (events : List CheckEvent)
    (sound : ∀ round, .round round ∈ events → round.Sound) :
    ∀ answer ∈ (run Polling.step ⟨world, []⟩ events).answers,
      answer.Supported ∧ (answer.round.LosesNothing → answer.Lasting) := by
  have keeps : ∀ (state : Polling) (event : CheckEvent),
      (∀ answer ∈ state.answers, answer.Supported) →
      (∀ round, event = .round round → round.Sound) →
      ∀ answer ∈ (state.step event).answers, answer.Supported := by
    intro state event supported sound
    cases event with
    | round round => exact supported_checkRound (sound round rfl) supported
    | elsewhere world => exact supported
  have none : ∀ answer ∈ (⟨world, []⟩ : Polling).answers, answer.Supported :=
    fun _ member => by cases member
  have supported := invariant_run_of_mem keeps none
    fun event member round same => sound round (same ▸ member)
  exact fun answer member => ⟨supported answer member, (supported answer member).lasting⟩

/-- `/eos/a/b/f` is there, and is asked for. -/
def lateRound : CheckRound where
  env := filledEnv
  trees _ := renewalTree
  calls := [.existsPath ["f", "b", "a"]]

/-- What a question about it before it was written leaves in the cache. -/
def staleWorld : World :=
  (existsPath emptyEnv ["f", "b", "a"] World.initial).2

theorem lateRound_sound : lateRound.Sound where
  truthful := filledEnv_truthful
  admissible := by
    intro call asked index
    rw [lateRound, List.mem_singleton] at asked
    rw [asked]
    exact ⟨by decide, noFileAbove_filled⟩

/-- The cache says no; the round finds the file there. -/
theorem answers_rest_on_current_listings_late :
    let events : List CheckEvent := [.elsewhere staleWorld, .round lateRound]
    (existsPath filledEnv ["f", "b", "a"] staleWorld).1 = .ok false ∧
      (run Polling.step ⟨World.initial, []⟩ events).answers.map ExistsAnswer.present = [true] ∧
      ∀ answer ∈ (run Polling.step ⟨World.initial, []⟩ events).answers, answer.Supported ∧
        (answer.round.LosesNothing → answer.Lasting) := by
  refine ⟨by decide +kernel, by decide +kernel, ?_⟩
  apply answers_rest_on_current_listings
  intro round member
  simp only [List.mem_cons, reduceCtorEq, CheckEvent.round.injEq, List.not_mem_nil, false_or,
    or_false] at member
  rw [member]
  exact lateRound_sound

end DSProd.Crab
