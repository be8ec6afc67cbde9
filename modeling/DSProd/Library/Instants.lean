import Mathlib.Algebra.Order.Archimedean.Basic

/-!
# Sequences of instants

What happens again and again, at instants that are at least some time apart.
No stretch of time then holds infinitely many of them, so each moment after the
first instant lies between two that follow each other.
-/

namespace DSProd.Library.Instants

variable {α : Type*} [AddCommGroup α] [LinearOrder α] [IsOrderedAddMonoid α]
  {start : ℕ → α} {gap : α}

/-- Instants a time apart are at least so many times it apart. -/
theorem start_add_nsmul_le (advances : ∀ n, start n + gap ≤ start (n + 1)) (first n : ℕ) :
    start first + n • gap ≤ start (first + n) := by
  induction n with
  | zero => simp
  | succ n ih =>
      calc
        start first + (n + 1) • gap = start first + n • gap + gap := by rw [succ_nsmul, add_assoc]
        _ ≤ start (first + n) + gap := add_le_add_left ih gap
        _ ≤ start (first + (n + 1)) := advances (first + n)

/-- Each moment is passed. -/
theorem exists_lt_start [Archimedean α] (advances : ∀ n, start n + gap ≤ start (n + 1))
    (positive : 0 < gap) (moment : α) (first : ℕ) : ∃ n, moment < start (first + n) := by
  obtain ⟨n, passed⟩ := Archimedean.arch (moment - start first) positive
  refine ⟨n + 1, ?_⟩
  calc
    moment ≤ start first + n • gap := sub_le_iff_le_add'.mp passed
    _ < start first + n • gap + gap := lt_add_of_pos_right _ positive
    _ ≤ start (first + n) + gap := add_le_add_left (start_add_nsmul_le advances first n) gap
    _ ≤ start (first + (n + 1)) := advances (first + n)

/-- A moment after one of the instants lies between two that follow each other. -/
theorem exists_between [Archimedean α] (advances : ∀ n, start n + gap ≤ start (n + 1))
    (positive : 0 < gap) {moment : α} {first : ℕ} (later : start first ≤ moment) :
    ∃ n, first ≤ n ∧ start n ≤ moment ∧ moment < start (n + 1) := by
  have passed := exists_lt_start advances positive moment first
  cases isFirst : Nat.find passed with
  | zero =>
      have before := Nat.find_spec passed
      rw [isFirst] at before
      exact absurd before (not_lt.mpr later)
  | succ n =>
      refine ⟨first + n, Nat.le_add_right first n, ?_, ?_⟩
      · exact not_lt.mp (Nat.find_min passed (by omega))
      · have after := Nat.find_spec passed
        rw [isFirst] at after
        exact after

/-- Instants a time apart from each other fill at least so many times it. -/
theorem add_nsmul_length_le {first last : α} {rest : List α}
    (spaced : (first :: rest).Pairwise fun earlier later => earlier + gap ≤ later)
    (before : ∀ moment ∈ first :: rest, moment ≤ last) : first + rest.length • gap ≤ last := by
  induction rest generalizing first with
  | nil => simpa using before first List.mem_cons_self
  | cons second rest ih =>
      obtain ⟨fromFirst, spacedRest⟩ := List.pairwise_cons.mp spaced
      have fromSecond : second + rest.length • gap ≤ last :=
        ih spacedRest fun moment member => before moment (List.mem_cons_of_mem first member)
      calc
        first + (second :: rest).length • gap = first + gap + rest.length • gap := by
          rw [List.length_cons, succ_nsmul', add_assoc]
        _ ≤ second + rest.length • gap := add_le_add_left (fromFirst second List.mem_cons_self) _
        _ ≤ last := fromSecond

end DSProd.Library.Instants
