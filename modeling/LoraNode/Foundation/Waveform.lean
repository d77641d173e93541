import Mathlib.Data.List.Basic

/-!
# Lines that hold a level for a while

A line shows a level at every moment. What a sender puts on it is a list of
phases, each a level and a duration, and nothing is said past the last phase.
-/

namespace LoraNode.Foundation.Waveform

structure Phase where
  level : Bool
  duration : Nat

/-- From `now` on the line shows the phases, one after the other. -/
def Follows (line : Nat → Bool) : Nat → List Phase → Prop
  | _, [] => True
  | now, phase :: rest =>
      (∀ time, now ≤ time → time < now + phase.duration → line time = phase.level) ∧
        Follows line (now + phase.duration) rest

variable {line : Nat → Bool} {now : Nat} {level : Bool} {duration : Nat} {rest : List Phase}

theorem follows_level (follows : Follows line now (⟨level, duration⟩ :: rest))
    (time : Nat) (inside : time < duration) : line (now + time) = level :=
  follows.1 (now + time) (by omega) (by simp only; omega)

/-- Some of the first phase has passed. -/
theorem follows_advance (follows : Follows line now (⟨level, duration⟩ :: rest)) (time : Nat)
    (inside : time ≤ duration) :
    Follows line (now + time) (⟨level, duration - time⟩ :: rest) := by
  obtain ⟨held, later⟩ := follows
  constructor
  · intro moment after before
    simp only at before
    exact held moment (by omega) (by simp only; omega)
  · have end' : now + time + (duration - time) = now + duration := by omega
    simp only
    rwa [end']

/-- The first phase has passed. -/
theorem follows_next (follows : Follows line now (⟨level, duration⟩ :: rest)) :
    Follows line (now + duration) rest := follows.2

def lineOf : List Phase → Nat → Bool
  | [], _ => false
  | phase :: rest, time =>
      if time < phase.duration then phase.level else lineOf rest (time - phase.duration)

theorem follows_lineOf (phases : List Phase) (line : Nat → Bool) (now : Nat)
    (shows : ∀ time, line (now + time) = lineOf phases time) : Follows line now phases := by
  induction phases generalizing now with
  | nil => exact True.intro
  | cons phase rest induction =>
      constructor
      · intro time after before
        have place : now + (time - now) = time := by omega
        have held := shows (time - now)
        rwa [place, lineOf, if_pos (by omega)] at held
      · apply induction
        intro time
        have past := shows (phase.duration + time)
        rw [lineOf, if_neg (by omega), Nat.add_sub_cancel_left] at past
        rw [Nat.add_assoc, past]

end LoraNode.Foundation.Waveform
