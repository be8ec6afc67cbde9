import DSProd.Library.Aside
import DSProd.Library.Text
import Mathlib.Data.Rat.Defs

/-!
# Renewing the proxy

`CreateVomsProxy`: `voms-proxy-init` writes a proxy beside the one that is
there, which is replaced only once the new one exists.  The file that is written
is named after the process, so any number of processes may renew a proxy at a
time.

What `voms-proxy-info` says of a proxy is a parameter: `none` where it fails,
and else the hours that are left, if it says so.
-/

namespace DSProd.Storage

open DSProd.Library
open DSProd.Library.Aside

section Renewing

variable {Proxy : Type*}

/-! ## Complete -/

section Complete

variable (info : Proxy → Option (Option ℚ)) (timeLimit : ℚ)

/-- `CreateVomsProxy.complete` of what there is at the path of the proxy. -/
def CreateVomsProxy.complete (onBatchNode : Bool) (found : Option Proxy) : Bool :=
  match found with
  | none => false
  | some proxy =>
      match info proxy with
      | none => false
      | some timeleft => onBatchNode || decide (timeLimit ≤ timeleft.getD 0)

/-- `voms-proxy-info` can read the proxy and says that it lasts. -/
def LastingProxy (proxy : Proxy) : Prop :=
  ∃ timeleft, info proxy = some timeleft ∧ timeLimit ≤ timeleft.getD 0

variable {info timeLimit}

theorem CreateVomsProxy.complete_of_lasting {proxy : Proxy}
    (lasting : LastingProxy info timeLimit proxy) (onBatchNode : Bool) :
    CreateVomsProxy.complete info timeLimit onBatchNode (some proxy) = true := by
  obtain ⟨timeleft, readable, enough⟩ := lasting
  simp only [CreateVomsProxy.complete, readable, decide_eq_true enough, Bool.or_true]

end Complete

/-! ## Renewing -/

/-- A run of `CreateVomsProxy`: `voms-proxy-init` runs, or has made a proxy. -/
inductive Renewal where
  | creating
  | created
  deriving DecidableEq

/-- `new_proxy`. -/
def newProxyPath (proxyPath : String) (pid : ℕ) : String :=
  proxyPath ++ ".new." ++ pid.repr

/-- The files, and the run of each process. -/
structure Renewals (Proxy : Type*) where
  files : String → Option Proxy
  runs : ℕ → Option Renewal

/-- What happens to a process: it begins to run the task, its `voms-proxy-init`
has written something or ends, it moves the new proxy into place, or it dies. -/
inductive RenewalEvent (Proxy : Type*) where
  | begins (pid : ℕ) (onBatchNode : Bool)
  | writes (pid : ℕ) (content : Proxy)
  | ends (pid : ℕ) (returnCode : ℤ)
  | moves (pid : ℕ)
  | dies (pid : ℕ)

variable (proxyPath : String)

/-- The state an event leaves.  An event that the process is not ready for leaves all as it is. -/
def Renewals.step (renewals : Renewals Proxy) : RenewalEvent Proxy → Renewals Proxy
  | .begins pid onBatchNode =>
      if onBatchNode = false ∧ renewals.runs pid = none then
        { renewals with runs := Function.update renewals.runs pid (some .creating) }
      else renewals
  | .writes pid content =>
      if renewals.runs pid = some .creating then
        { renewals with
          files := Function.update renewals.files (newProxyPath proxyPath pid) (some content) }
      else renewals
  | .ends pid returnCode =>
      if renewals.runs pid = some .creating then
        if returnCode ≠ 0 then
          { files := Function.update renewals.files (newProxyPath proxyPath pid) none
            runs := Function.update renewals.runs pid none }
        else
          match renewals.files (newProxyPath proxyPath pid) with
          | none => { renewals with runs := Function.update renewals.runs pid none }
          | some _ => { renewals with runs := Function.update renewals.runs pid (some .created) }
      else renewals
  | .moves pid =>
      if renewals.runs pid = some .created then
        match renewals.files (newProxyPath proxyPath pid) with
        | none => { renewals with runs := Function.update renewals.runs pid none }
        | some proxy =>
            { files := Function.update
                (Function.update renewals.files proxyPath (some proxy))
                (newProxyPath proxyPath pid) none
              runs := Function.update renewals.runs pid none }
      else renewals
  | .dies pid => { renewals with runs := Function.update renewals.runs pid none }

/-- What a run of the task comes to where an event ends it. -/
def Renewals.answer (renewals : Renewals Proxy) :
    RenewalEvent Proxy → Option (Except String Unit)
  | .begins _ onBatchNode =>
      if onBatchNode then
        some (.error ("No usable voms proxy at " ++ proxyPath ++
          " on a batch node, and a new one cannot be created there. " ++
          "Check that the batch system delegated a proxy."))
      else none
  | .ends pid returnCode =>
      if renewals.runs pid = some .creating then
        if returnCode ≠ 0 then
          let kept :=
            if (renewals.files proxyPath).isSome then
              "the existing one at " ++ proxyPath ++ " is kept"
            else "there is none at " ++ proxyPath
          some (.error ("Unable to create a voms proxy; " ++ kept ++
            ". Re-run the command from a terminal, or accept an existing proxy with " ++
            "--CreateVomsProxy-time-limit <hours>."))
        else if renewals.files (newProxyPath proxyPath pid) = none then
          some (.error "Unable to create voms proxy")
        else none
      else none
  | .moves pid =>
      if renewals.runs pid = some .created then
        match renewals.files (newProxyPath proxyPath pid) with
        | none =>
            some (.error ("[Errno 2] No such file or directory: '" ++
              newProxyPath proxyPath pid ++ "' -> '" ++ proxyPath ++ "'"))
        | some _ => some (.ok ())
      else none
  | _ => none

/-! ## Processes as writers of files -/

theorem newProxyPath_injective {pid other : ℕ}
    (same : newProxyPath proxyPath pid = newProxyPath proxyPath other) : pid = other := by
  rw [newProxyPath, newProxyPath, String.append_right_inj] at same
  exact Text.digits_injective (congrArg String.toList same)

theorem newProxyPath_ne (pid : ℕ) : newProxyPath proxyPath pid ≠ proxyPath := by
  intro same
  have lengths := congrArg String.length same
  simp only [newProxyPath, String.length_append] at lengths
  have dot : ".new.".length = 5 := rfl
  omega

/-- Where the proxies are written, and the one that they replace. -/
def proxyLayout : Layout ℕ String where
  aside := newProxyPath proxyPath
  target _ := proxyPath
  separate pid _ := newProxyPath_ne proxyPath pid

/-- The files, and the processes that have made a proxy. -/
def Renewals.desk (renewals : Renewals Proxy) : Desk ℕ String Proxy where
  files := renewals.files
  ready pid := renewals.runs pid = some .created

/-- What an event does to the files. -/
def Renewals.moves (renewals : Renewals Proxy) : RenewalEvent Proxy → List (Aside.Move ℕ Proxy)
  | .begins pid onBatchNode =>
      if onBatchNode = false ∧ renewals.runs pid = none then [.leave pid] else []
  | .writes pid content =>
      if renewals.runs pid = some .creating then [.put pid (some content)] else []
  | .ends pid returnCode =>
      if renewals.runs pid = some .creating then
        if returnCode ≠ 0 then [.put pid none]
        else if renewals.files (newProxyPath proxyPath pid) = none then [.leave pid]
        else [.approve pid]
      else []
  | .moves pid => if renewals.runs pid = some .created then [.publish pid] else []
  | .dies pid => [.leave pid]

variable {proxyPath} {renewals : Renewals Proxy}

theorem Renewals.ready_update (pid : ℕ) (phase : Option Renewal) :
    (fun other => decide (Function.update renewals.runs pid phase other = some .created)) =
      Function.update renewals.desk.ready pid (decide (phase = some .created)) :=
  Function.comp_update (fun phase => decide (phase = some Renewal.created)) renewals.runs pid phase

/-- A process that has made no proxy was not ready before either. -/
theorem Renewals.update_ready_false {pid : ℕ} (unmade : renewals.runs pid ≠ some .created) :
    Function.update renewals.desk.ready pid false = renewals.desk.ready :=
  Function.update_eq_self_iff.mpr (decide_eq_false unmade).symm

/-- The processes do to the files what writers do that replace files whole. -/
theorem Renewals.desk_step (event : RenewalEvent Proxy) :
    (renewals.step proxyPath event).desk =
      run (Desk.step (proxyLayout proxyPath)) renewals.desk
        (renewals.moves proxyPath event) := by
  cases event with
  | begins pid onBatchNode =>
      rw [Renewals.step, Renewals.moves]
      split
      · exact congrArg (Desk.mk renewals.files) (ready_update pid _)
      · rfl
  | writes pid content =>
      rw [Renewals.step, Renewals.moves]
      split
      · rename_i creating
        have unmade : renewals.runs pid ≠ some .created := by simp [creating]
        exact congrArg (Desk.mk _) (update_ready_false unmade).symm
      · rfl
  | ends pid returnCode =>
      rw [Renewals.step, Renewals.moves]
      split
      · split
        · exact congrArg (Desk.mk _) (ready_update pid none)
        · split
          · rename_i absent
            rw [if_pos absent]
            exact congrArg (Desk.mk _) (ready_update pid none)
          · rename_i proxy found
            rw [if_neg (by simp [found])]
            exact congrArg (Desk.mk _) (ready_update pid _)
      · rfl
  | moves pid =>
      rw [Renewals.step, Renewals.moves]
      split
      · rename_i created
        have isReady : renewals.desk.ready pid = true := decide_eq_true created
        have ended : _ = Function.update renewals.desk.ready pid false := ready_update pid none
        rw [run_cons, run_nil, Desk.step, isReady]
        split
        · rename_i absent
          rw [if_neg (by simp [Renewals.desk, proxyLayout, absent])]
          exact congrArg (Desk.mk _) ended
        · rename_i proxy found
          rw [if_pos ⟨rfl, by simp [Renewals.desk, proxyLayout, found]⟩]
          have found' : renewals.desk.files ((proxyLayout proxyPath).aside pid) = some proxy :=
            found
          rw [found']
          exact congrArg (Desk.mk _) ended
      · rfl
  | dies pid => exact congrArg (Desk.mk renewals.files) (ready_update pid none)

variable (proxyPath) in
/-- Where `voms-proxy-init` exits with zero, what it has written is a good proxy. -/
def Issued (good : Proxy → Prop) (renewals : Renewals Proxy) : RenewalEvent Proxy → Prop
  | .ends pid returnCode =>
      renewals.runs pid = some .creating → returnCode = 0 →
        ∀ proxy, renewals.files (newProxyPath proxyPath pid) = some proxy → good proxy
  | _ => True

variable {good : Proxy → Prop}

/-- No two processes write to one file. -/
theorem Renewals.harmless_moves {event : RenewalEvent Proxy}
    (issued : Issued proxyPath good renewals event) :
    Along (Desk.step (proxyLayout proxyPath)) (Harmless (proxyLayout proxyPath) good)
      renewals.desk (renewals.moves proxyPath event) := by
  cases event with
  | begins pid onBatchNode =>
      rw [Renewals.moves]
      split
      · exact ⟨trivial, trivial⟩
      · trivial
  | writes pid content =>
      rw [Renewals.moves]
      split
      · refine ⟨fun _ other shared itself => ?_, trivial⟩
        exact absurd (newProxyPath_injective proxyPath shared) itself
      · trivial
  | ends pid returnCode =>
      rw [Renewals.moves]
      split
      · rename_i creating
        split
        · exact ⟨fun some => absurd rfl some, trivial⟩
        · rename_i succeeded
          split
          · exact ⟨trivial, trivial⟩
          · exact ⟨issued creating (not_not.mp succeeded), trivial⟩
      · trivial
  | moves pid =>
      rw [Renewals.moves]
      split
      · exact ⟨trivial, trivial⟩
      · trivial
  | dies pid => exact ⟨trivial, trivial⟩

theorem Renewals.safe_step {initial : String → Option Proxy} {event : RenewalEvent Proxy}
    (safe : Safe (proxyLayout proxyPath) good initial renewals.desk)
    (issued : Issued proxyPath good renewals event) :
    Safe (proxyLayout proxyPath) good initial (renewals.step proxyPath event).desk := by
  rw [Renewals.desk_step]
  exact safe.run (harmless_moves issued)

theorem Renewals.safe_run {initial : String → Option Proxy} {events : List (RenewalEvent Proxy)}
    (safe : Safe (proxyLayout proxyPath) good initial renewals.desk)
    (issued : Along (Renewals.step proxyPath) (Issued proxyPath good) renewals events) :
    Safe (proxyLayout proxyPath) good initial
      (run (Renewals.step proxyPath) renewals events).desk := by
  have keeps : ∀ (state : Renewals Proxy) (event : RenewalEvent Proxy),
      Safe (proxyLayout proxyPath) good initial state.desk → Issued proxyPath good state event →
      Safe (proxyLayout proxyPath) good initial (state.step proxyPath event).desk :=
    fun _ _ safe issued => safe_step safe issued
  exact invariant_run_of_along keeps safe issued

/-- The proxy is as it was or a good one. -/
theorem Renewals.kept_of_safe {initial : String → Option Proxy}
    (safe : Safe (proxyLayout proxyPath) good initial renewals.desk) :
    renewals.files proxyPath = initial proxyPath ∨
      ∃ proxy, renewals.files proxyPath = some proxy ∧ good proxy :=
  safe.target 0

/-- What a process has moved into place is what it had made. -/
theorem Renewals.files_of_ok {event : RenewalEvent Proxy}
    (ok : renewals.answer proxyPath event = some (.ok ())) :
    ∃ pid proxy, renewals.desk.ready pid = true ∧
      renewals.files (newProxyPath proxyPath pid) = some proxy ∧
      (renewals.step proxyPath event).files proxyPath = some proxy := by
  cases event with
  | begins pid onBatchNode =>
      rw [Renewals.answer] at ok
      split at ok <;> cases ok
  | writes pid content => cases ok
  | ends pid returnCode =>
      rw [Renewals.answer] at ok
      split at ok
      · split at ok
        · cases ok
        · split at ok <;> cases ok
      · cases ok
  | moves pid =>
      rw [Renewals.answer] at ok
      split at ok
      · rename_i created
        split at ok
        · cases ok
        · rename_i proxy found
          refine ⟨pid, proxy, decide_eq_true created, found, ?_⟩
          rw [Renewals.step, if_pos created, found]
          dsimp only
          rw [Function.update_of_ne (newProxyPath_ne proxyPath pid).symm, Function.update_self]
      · cases ok
  | dies pid => cases ok

/-- A run that fails leaves the proxy that is there. -/
theorem Renewals.files_of_error {event : RenewalEvent Proxy} {message : String}
    (error : renewals.answer proxyPath event = some (.error message)) :
    (renewals.step proxyPath event).files proxyPath = renewals.files proxyPath := by
  cases event with
  | begins pid onBatchNode =>
      rw [Renewals.step]
      split <;> rfl
  | writes pid content => cases error
  | ends pid returnCode =>
      rw [Renewals.step]
      split
      · split
        · exact Function.update_of_ne (newProxyPath_ne proxyPath pid).symm _ _
        · split <;> rfl
      · rfl
  | moves pid =>
      rw [Renewals.answer] at error
      rw [Renewals.step]
      split at error
      · rename_i created
        rw [if_pos created]
        split at error
        · rfl
        · cases error
      · cases error
  | dies pid => cases error

variable (proxyPath) in
/-- What is left beside the proxy is what a process is at. -/
def Tidy (renewals : Renewals Proxy) : Prop :=
  ∀ pid, renewals.runs pid = none → renewals.files (newProxyPath proxyPath pid) = none

theorem Tidy.step {event : RenewalEvent Proxy} (tidy : Tidy proxyPath renewals)
    (survives : ∀ pid, event ≠ .dies pid) : Tidy proxyPath (renewals.step proxyPath event) := by
  -- a process that ends its run has left nothing, and the others are as they were
  have leaves : ∀ pid (files : String → Option Proxy),
      files (newProxyPath proxyPath pid) = none →
      (∀ other, other ≠ pid → files (newProxyPath proxyPath other) =
        renewals.files (newProxyPath proxyPath other)) →
      ∀ phase, Tidy proxyPath ⟨files, Function.update renewals.runs pid phase⟩ := by
    intro pid files gone others phase other idle
    dsimp only at idle ⊢
    by_cases itself : other = pid
    · rw [itself]
      exact gone
    · rw [Function.update_of_ne itself] at idle
      rw [others other itself]
      exact tidy other idle
  have goesOn : ∀ pid (files : String → Option Proxy) (phase : Renewal),
      (∀ other, other ≠ pid → files (newProxyPath proxyPath other) =
        renewals.files (newProxyPath proxyPath other)) →
      Tidy proxyPath ⟨files, Function.update renewals.runs pid (some phase)⟩ := by
    intro pid files phase others other idle
    dsimp only at idle ⊢
    by_cases itself : other = pid
    · rw [itself, Function.update_self] at idle
      cases idle
    · rw [Function.update_of_ne itself] at idle
      rw [others other itself]
      exact tidy other idle
  have elsewhere : ∀ pid (files : String → Option Proxy) content other, other ≠ pid →
      Function.update files (newProxyPath proxyPath pid) content
        (newProxyPath proxyPath other) = files (newProxyPath proxyPath other) := by
    intro pid files content other itself
    exact Function.update_of_ne (fun same => itself (newProxyPath_injective proxyPath same)) _ _
  cases event with
  | begins pid onBatchNode =>
      rw [Renewals.step]
      split
      · exact goesOn pid renewals.files _ fun _ _ => rfl
      · exact tidy
  | writes pid content =>
      rw [Renewals.step]
      split
      · rename_i creating
        have same : Function.update renewals.runs pid (some .creating) = renewals.runs :=
          Function.update_eq_self_iff.mpr creating.symm
        have written := goesOn pid _ .creating (elsewhere pid renewals.files (some content))
        rw [same] at written
        exact written
      · exact tidy
  | ends pid returnCode =>
      rw [Renewals.step]
      split
      · split
        · exact leaves pid _ (Function.update_self _ _ _) (elsewhere pid _ none) none
        · split
          · rename_i absent
            exact leaves pid _ absent (fun _ _ => rfl) none
          · exact goesOn pid renewals.files _ fun _ _ => rfl
      · exact tidy
  | moves pid =>
      rw [Renewals.step]
      split
      · split
        · rename_i absent
          exact leaves pid _ absent (fun _ _ => rfl) none
        · refine leaves pid _ (Function.update_self _ _ _) (fun other itself => ?_) none
          rw [elsewhere pid _ none other itself]
          exact Function.update_of_ne (newProxyPath_ne proxyPath other) _ _
      · exact tidy
  | dies pid => exact absurd rfl (survives pid)

variable (proxyPath) in
/-- What a run of events makes of the files when no process has begun. -/
def renewed (files : String → Option Proxy) (events : List (RenewalEvent Proxy)) :
    Renewals Proxy :=
  run (Renewals.step proxyPath) ⟨files, fun _ => none⟩ events

/-- However the processes take turns and wherever they die, the proxy is the one
that was there or a new one that lasts, so it never goes missing; once a run has
succeeded the task is complete; a run that fails leaves the proxy as it is; and
unless a process dies, nothing is left beside the proxy when its run is over. -/
theorem proxy_survives (proxyPath : String) (info : Proxy → Option (Option ℚ)) (timeLimit : ℚ)
    (files : String → Option Proxy) {events : List (RenewalEvent Proxy)}
    (issued : Along (Renewals.step proxyPath) (Issued proxyPath (LastingProxy info timeLimit))
      ⟨files, fun _ => none⟩ events) :
    ((renewed proxyPath files events).files proxyPath = files proxyPath ∨
      ∃ proxy, (renewed proxyPath files events).files proxyPath = some proxy ∧
        LastingProxy info timeLimit proxy) ∧
    (∀ before event after, events = before ++ event :: after →
      (renewed proxyPath files before).answer proxyPath event = some (.ok ()) →
      ∀ onBatchNode, CreateVomsProxy.complete info timeLimit onBatchNode
        ((renewed proxyPath files events).files proxyPath) = true) ∧
    (∀ before event after message, events = before ++ event :: after →
      (renewed proxyPath files before).answer proxyPath event = some (.error message) →
      (renewed proxyPath files (before ++ [event])).files proxyPath =
        (renewed proxyPath files before).files proxyPath) ∧
    ((∀ pid, files (newProxyPath proxyPath pid) = none) → (∀ pid, .dies pid ∉ events) →
      ∀ pid, (renewed proxyPath files events).runs pid = none →
        (renewed proxyPath files events).files (newProxyPath proxyPath pid) = none) := by
  have unready : ∀ pid, (⟨files, fun _ => none⟩ : Renewals Proxy).desk.ready pid = false :=
    fun _ => rfl
  have initially : Safe (proxyLayout proxyPath) (LastingProxy info timeLimit) files
      (⟨files, fun _ => none⟩ : Renewals Proxy).desk := Safe.unapproved unready
  refine ⟨Renewals.kept_of_safe (Renewals.safe_run initially issued), ?_, ?_, ?_⟩
  · rintro before event after rfl ok onBatchNode
    rw [along_append, along_cons] at issued
    obtain ⟨earlier, now, later⟩ := issued
    have safe := Renewals.safe_run initially earlier
    obtain ⟨pid, proxy, isReady, made, moved⟩ := Renewals.files_of_ok ok
    have lasting := safe.approved pid isReady proxy made
    -- from here on the proxy is this one or another that lasts
    have restart := (Renewals.safe_step safe now).restart
    rcases Renewals.kept_of_safe (Renewals.safe_run restart later) with
      same | ⟨other, found, lasts⟩
    · rw [renewed, run_append, run_cons, same.trans moved]
      exact CreateVomsProxy.complete_of_lasting lasting onBatchNode
    · rw [renewed, run_append, run_cons, found]
      exact CreateVomsProxy.complete_of_lasting lasts onBatchNode
  · rintro before event after message rfl error
    rw [renewed, run_append]
    exact Renewals.files_of_error error
  · intro initiallyNone survive
    have allSurvive : Along (Renewals.step proxyPath) (fun _ event => ∀ pid, event ≠ .dies pid)
        ⟨files, fun _ => none⟩ events := by
      rw [along_iff_forall_cut]
      rintro before event after rfl pid rfl
      exact survive pid (by simp)
    exact invariant_run_of_along (fun _ _ tidy survives => Tidy.step tidy survives)
      (fun pid _ => initiallyNone pid) allSurvive

end Renewing

/-- A proxy with two hours left. -/
def shortProxy (path : String) : Option ℚ :=
  if path = "proxy" then some 2 else none

/-- Two processes renew a proxy: one has no terminal, the other succeeds. -/
def twoRenewals : List (RenewalEvent ℚ) :=
  [.begins 7 false, .begins 8 false, .writes 8 192, .writes 7 0, .ends 7 1, .ends 8 0, .moves 8]

/-- The proxy is kept where one process fails, and replaced by the other. -/
theorem proxy_survives_twoRenewals :
    (renewed "proxy" shortProxy (twoRenewals.take 5)).files "proxy" = some 2 ∧
    CreateVomsProxy.complete (fun hours => some (some hours)) 24 false
      ((renewed "proxy" shortProxy twoRenewals).files "proxy") = true := by
  have issued : Along (Renewals.step "proxy")
      (Issued "proxy" (LastingProxy (fun hours => some (some hours)) 24))
      ⟨shortProxy, fun _ => none⟩ twoRenewals := by
    refine ⟨trivial, trivial, trivial, trivial, ?_, ?_, trivial, trivial⟩
    · intro _ failed
      cases failed
    · intro _ _ proxy found
      have written : proxy = 192 := by
        cases found
        rfl
      rw [written]
      exact ⟨some 192, rfl, by decide⟩
  have survives := proxy_survives "proxy" (fun hours => some (some hours)) 24 shortProxy issued
  constructor
  · exact (survives.2.2.1 (twoRenewals.take 4) (.ends 7 1) [.ends 8 0, .moves 8] _ rfl rfl).trans
      (by decide)
  · exact survives.2.1 (twoRenewals.take 6) (.moves 8) [] rfl rfl false

end DSProd.Storage
