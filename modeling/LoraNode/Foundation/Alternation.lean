import Mathlib.Data.List.Induction
import Mathlib.Tactic.Common

/-!
# Marks that take turns

A history of marks in which opening and closing marks alternate, an opening
mark first. Its counts follow from its length.
-/

namespace LoraNode.Foundation.Alternation

variable {Mark : Type*} (opens : Mark → Bool)

/-- Marks at even places open and marks at odd places close. -/
def TakesTurns (marks : List Mark) : Prop :=
  ∀ place (inside : place < marks.length), opens marks[place] = decide (place % 2 = 0)

theorem takes_turns_nil : TakesTurns opens [] := by
  intro place inside
  simp at inside

theorem takes_turns_snoc (marks : List Mark) (mark : Mark) :
    TakesTurns opens (marks ++ [mark]) ↔
      TakesTurns opens marks ∧ opens mark = decide (marks.length % 2 = 0) := by
  constructor
  · intro turns
    constructor
    · intro place inside
      have earlier := turns place (by simp; omega)
      rwa [List.getElem_append_left inside] at earlier
    · have last := turns marks.length (by simp)
      simpa using last
  · rintro ⟨turns, last⟩ place inside
    by_cases earlier : place < marks.length
    · rw [List.getElem_append_left earlier]
      exact turns place earlier
    · have final : place = marks.length := by
        rw [List.length_append, List.length_singleton] at inside
        omega
      subst final
      simpa using last

theorem opened_count (marks : List Mark) (turns : TakesTurns opens marks) :
    marks.countP opens = (marks.length + 1) / 2 := by
  induction marks using List.reverseRecOn with
  | nil => simp
  | append_singleton marks mark induction =>
      obtain ⟨before, last⟩ := (takes_turns_snoc opens marks mark).mp turns
      rw [List.countP_append, induction before, List.length_append, List.length_singleton,
        List.countP_singleton, last]
      by_cases even : marks.length % 2 = 0
      · simp only [even, decide_true, if_true]
        omega
      · simp only [even, decide_false, Bool.false_eq_true, if_false]
        omega

theorem closed_count (marks : List Mark) (turns : TakesTurns opens marks) :
    marks.countP (fun mark => !opens mark) = marks.length / 2 := by
  have opened := opened_count opens marks turns
  have total := List.length_eq_countP_add_countP opens (l := marks)
  simp only [Bool.not_eq_true, Bool.decide_eq_false] at total
  omega

end LoraNode.Foundation.Alternation
