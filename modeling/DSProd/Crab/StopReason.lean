import DSProd.Crab.StatusPolls

/-!
# When the run stops

Two sets and two counters decide when a run gives up on the CRAB server, each
with rules of its own about which answers it counts, which of them end it, and
whose submissions matter.  Each of them is what a reading of the history of
submissions and answers says it is, so the reason to stop is there exactly when
the history gives one.
-/

namespace DSProd.Crab

open DSProd.Library
open DSProd.Watchdog

/-! ## Histories -/

/-- The kinds of answers a project gives to a poll. -/
inductive Kind where
  | refused
  | waiting
  | submitFailed
  | unreadable
  | parsed
  deriving DecidableEq

/-- The kind of an answer. -/
def Answer.kind : Answer → Kind
  | .refused _ => .refused
  | .waiting _ => .waiting
  | .submitFailed _ _ => .submitFailed
  | .unreadable _ => .unreadable
  | .parsed _ => .parsed

/-- What a history has: submissions of this run, and answers. -/
inductive Moment where
  | submitted (projDir : String)
  | answered (projDir : String) (kind : Kind)
  deriving DecidableEq

/-- What a call adds to the history. -/
def moments (law : Law) : PollEvent → List Moment
  | .submit jobIds => ((jobIds.map JobId.projDir).filter (· ≠ "")).map .submitted
  | .query poll => [.answered poll.projDir (poll.answer law).kind]

/-- The history of some calls. -/
def history (law : Law) (events : List PollEvent) : List Moment :=
  events.flatMap (moments law)

/-- Whether a moment is an answer of a project, of a kind that passes a test. -/
def Moment.answers (projDir : String) (test : Kind → Bool) : Moment → Bool
  | .submitted _ => false
  | .answered other kind => other = projDir && test kind

/-- The answers of some kind a project has given since the last one that ends
the count. -/
def streak (projDir : String) (kind : Kind) (ends : Kind → Bool) (past : List Moment) : Nat :=
  (past.reverse.takeWhile fun moment => !moment.answers projDir ends).countP fun moment =>
    moment.answers projDir (· = kind)

/-- How often a project has been waiting since it last gave a parsed answer, or
could not be submitted. -/
def waits (past : List Moment) (projDir : String) : Nat :=
  streak projDir .waiting (fun kind => kind = .parsed || kind = .submitFailed) past

end DSProd.Crab
