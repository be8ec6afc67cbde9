import Mathlib.Data.List.Infix

/-!
# Phrases inside a text

Where a text was put together from parts, a phrase stands in one of the parts
unless it spans the end of one and the beginning of the next.
-/

namespace DSProd.Library.Phrases

variable {α : Type*}

/-- A phrase does not span a mark that it does not hold. -/
theorem infix_append_cons {phrase before after : List α} {mark : α} (other : mark ∉ phrase) :
    phrase <:+: before ++ mark :: after ↔ phrase <:+: before ∨ phrase <:+: after := by
  constructor
  · intro inside
    rcases List.infix_append_iff_ne_nil.mp inside with first | second | straddling
    · exact Or.inl first
    · rcases List.infix_cons_iff.mp second with begins | later
      · obtain ⟨rest, shape⟩ := begins
        cases phrase with
        | nil => exact Or.inl List.nil_infix
        | cons head tail =>
            cases shape
            exact absurd List.mem_cons_self other
      · exact Or.inr later
    · obtain ⟨ending, beginning, _, some, rfl, _, begins⟩ := straddling
      obtain ⟨rest, shape⟩ := begins
      cases beginning with
      | nil => exact absurd rfl some
      | cons head tail =>
          cases shape
          exact absurd (List.mem_append_right ending List.mem_cons_self) other
  · rintro (first | second)
    · exact first.trans (List.prefix_append before _).isInfix
    · exact second.trans ((List.suffix_cons mark after).trans (List.suffix_append before _)).isInfix

/-- Nor a run of such marks. -/
theorem infix_append_run {phrase run after : List α} (other : ∀ mark ∈ run, mark ∉ phrase)
    (some : run ≠ []) (before : List α) :
    phrase <:+: before ++ (run ++ after) ↔ phrase <:+: before ∨ phrase <:+: after := by
  induction run generalizing before with
  | nil => exact absurd rfl some
  | cons mark rest ih =>
      rw [List.cons_append, infix_append_cons (other mark List.mem_cons_self)]
      apply or_congr_right
      cases rest with
      | nil => rw [List.nil_append]
      | cons next others =>
          have later := ih (fun other' member => other other' (List.mem_cons_of_mem mark member))
            (List.cons_ne_nil next others) []
          rw [List.nil_append] at later
          rw [later]
          constructor
          · rintro (nothing | inside)
            · rw [List.infix_nil.mp nothing]
              exact List.nil_infix
            · exact inside
          · exact Or.inr

/-- What is put before a text adds no phrase, unless it ends with the beginning of one. -/
theorem infix_append_of_apart {phrase before after : List α} (notBefore : ¬phrase <:+: before)
    (apart : ∀ beginning ∈ phrase.inits, beginning ≠ [] → ¬beginning <:+ before) :
    phrase <:+: before ++ after ↔ phrase <:+: after := by
  constructor
  · intro inside
    rcases List.infix_append_iff_ne_nil.mp inside with first | second | straddling
    · exact absurd first notBefore
    · exact second
    · obtain ⟨ending, beginning, some, _, rfl, ends, _⟩ := straddling
      have inits : ending ∈ (ending ++ beginning).inits :=
        (List.mem_inits _ _).mpr (List.prefix_append ending beginning)
      exact absurd ends (apart ending inits some)
  · exact fun inside => inside.trans (List.suffix_append before after).isInfix

end DSProd.Library.Phrases
