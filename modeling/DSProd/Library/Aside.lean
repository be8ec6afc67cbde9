import DSProd.Library.Run
import Mathlib.Logic.Function.Basic

/-!
# Files that are replaced whole

A writer prepares a file beside the one it is to replace, approves it, and
renames it.  Writers take turns in any order and may stop anywhere.  The file
that is replaced is then always one that was approved, as long as nobody writes
to a file that another writer has approved; with files of their own beside the
target, nobody can.
-/

namespace DSProd.Library.Aside

variable {ω Name Content : Type*} [DecidableEq ω] [DecidableEq Name]

/-- The file that each writer prepares and the one it replaces.  No file is both. -/
structure Layout (ω Name : Type*) where
  aside : ω → Name
  target : ω → Name
  separate : ∀ writer other, aside writer ≠ target other

/-- The files, and the writers that have approved what they prepared. -/
structure Desk (ω Name Content : Type*) where
  files : Name → Option Content
  ready : ω → Bool

/-- What a writer does: it changes the file it prepares, approves it, renames
it, or gives up. -/
inductive Move (ω Content : Type*) where
  | put (writer : ω) (content : Option Content)
  | approve (writer : ω)
  | publish (writer : ω)
  | leave (writer : ω)

/-- The desk that a move leaves.  There is nothing to rename where the file is gone. -/
def Desk.step (layout : Layout ω Name) (desk : Desk ω Name Content) :
    Move ω Content → Desk ω Name Content
  | .put writer content =>
      { files := Function.update desk.files (layout.aside writer) content
        ready := Function.update desk.ready writer false }
  | .approve writer => { desk with ready := Function.update desk.ready writer true }
  | .publish writer =>
      { files :=
          if desk.ready writer ∧ desk.files (layout.aside writer) ≠ none then
            Function.update
              (Function.update desk.files (layout.target writer)
                (desk.files (layout.aside writer)))
              (layout.aside writer) none
          else desk.files
        ready := Function.update desk.ready writer false }
  | .leave writer => { desk with ready := Function.update desk.ready writer false }

/-- A move that does no harm: nothing is written to a file that another writer
has approved, and what is approved is good. -/
def Harmless (layout : Layout ω Name) (good : Content → Prop) (desk : Desk ω Name Content) :
    Move ω Content → Prop
  | .put writer content =>
      content ≠ none → ∀ other, layout.aside other = layout.aside writer → other ≠ writer →
        desk.ready other = false
  | .approve writer => ∀ content, desk.files (layout.aside writer) = some content → good content
  | .publish _ => True
  | .leave _ => True

/-- What is approved is good, and so is a target unless it is as it was. -/
structure Safe (layout : Layout ω Name) (good : Content → Prop)
    (initial : Name → Option Content) (desk : Desk ω Name Content) : Prop where
  approved : ∀ writer, desk.ready writer = true → ∀ content,
    desk.files (layout.aside writer) = some content → good content
  target : ∀ writer, desk.files (layout.target writer) = initial (layout.target writer) ∨
    ∃ content, desk.files (layout.target writer) = some content ∧ good content

section Step

variable {layout : Layout ω Name} {good : Content → Prop} {initial : Name → Option Content}
  {desk : Desk ω Name Content}

omit [DecidableEq Name] in
/-- A writer that is not ready any more. -/
theorem Safe.unready (safe : Safe layout good initial desk) (writer : ω) :
    Safe layout good initial { desk with ready := Function.update desk.ready writer false } where
  approved := by
    intro other isReady
    dsimp only at isReady
    by_cases same : other = writer
    · rw [same, Function.update_self] at isReady
      cases isReady
    · rw [Function.update_of_ne same] at isReady
      exact safe.approved other isReady
  target := safe.target

theorem Safe.put (safe : Safe layout good initial desk) {writer : ω} {content : Option Content}
    (harmless : Harmless layout good desk (.put writer content)) :
    Safe layout good initial (desk.step layout (.put writer content)) where
  approved := by
    intro other isReady found same
    rw [Desk.step] at isReady same
    dsimp only at isReady same
    by_cases itself : other = writer
    · rw [itself, Function.update_self] at isReady
      cases isReady
    · rw [Function.update_of_ne itself] at isReady
      by_cases shared : layout.aside other = layout.aside writer
      · rw [shared, Function.update_self] at same
        rw [harmless (by simp [same]) other shared itself] at isReady
        cases isReady
      · rw [Function.update_of_ne shared] at same
        exact safe.approved other isReady found same
  target := by
    intro other
    rw [Desk.step]
    dsimp only
    rw [Function.update_of_ne (layout.separate writer other).symm]
    exact safe.target other

theorem Safe.publish (safe : Safe layout good initial desk) (writer : ω) :
    Safe layout good initial (desk.step layout (.publish writer)) := by
  rw [Desk.step]
  split
  · rename_i published
    obtain ⟨isReady, present⟩ := published
    obtain ⟨content, found⟩ := Option.ne_none_iff_exists'.mp present
    have isGood := safe.approved writer isReady content found
    constructor
    · intro other otherReady stored same
      dsimp only at otherReady same
      by_cases itself : other = writer
      · rw [itself, Function.update_self] at otherReady
        cases otherReady
      · rw [Function.update_of_ne itself] at otherReady
        by_cases shared : layout.aside other = layout.aside writer
        · rw [shared, Function.update_self] at same
          cases same
        · rw [Function.update_of_ne shared, Function.update_of_ne (layout.separate _ _)] at same
          exact safe.approved other otherReady stored same
    · intro other
      dsimp only
      rw [Function.update_of_ne (layout.separate writer other).symm]
      by_cases shared : layout.target other = layout.target writer
      · rw [shared, Function.update_self]
        exact Or.inr ⟨content, found, isGood⟩
      · rw [Function.update_of_ne shared]
        exact safe.target other
  · exact safe.unready writer

theorem Safe.step (safe : Safe layout good initial desk) {move : Move ω Content}
    (harmless : Harmless layout good desk move) :
    Safe layout good initial (desk.step layout move) := by
  cases move with
  | put writer content => exact safe.put harmless
  | approve writer =>
      constructor
      · intro other isReady content found
        rw [Desk.step] at isReady found
        dsimp only at isReady found
        by_cases same : other = writer
        · exact harmless content (same ▸ found)
        · rw [Function.update_of_ne same] at isReady
          exact safe.approved other isReady content found
      · exact safe.target
  | publish writer => exact safe.publish writer
  | leave writer => exact safe.unready writer

theorem Safe.run (safe : Safe layout good initial desk) {moves : List (Move ω Content)}
    (harmless : Along (Desk.step layout) (Harmless layout good) desk moves) :
    Safe layout good initial (Library.run (Desk.step layout) desk moves) :=
  invariant_run_of_along (fun _ _ safe allowed => safe.step allowed) safe harmless

omit [DecidableEq ω] [DecidableEq Name] in
/-- Where nobody has approved anything, all is as it was. -/
theorem Safe.unapproved (unready : ∀ writer, desk.ready writer = false) :
    Safe layout good desk.files desk where
  approved := by
    intro writer isReady
    rw [unready writer] at isReady
    cases isReady
  target := fun _ => Or.inl rfl

omit [DecidableEq ω] [DecidableEq Name] in
/-- From a later moment on, too, a target is as it is then or good. -/
theorem Safe.restart (safe : Safe layout good initial desk) : Safe layout good desk.files desk where
  approved := safe.approved
  target := fun _ => Or.inl rfl

end Step

end DSProd.Library.Aside
