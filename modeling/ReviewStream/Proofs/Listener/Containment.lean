import Mathlib.Tactic.Lemma

/-!
# Crashes that are contained

Observers of a connection and listeners of a registry are told one after the other, and each of
them may crash.  A crash unwinds whatever runs at the time, so what comes after it is not done
unless somebody catches it.

* `Attempt`: what a stretch of code has done, and whether it ended in a crash.
* `Attempt.each`: one delivery after the other, each of them contained.
* **`Attempt.each_eq`**: every delivery is made, whichever of them crash.
-/

namespace ReviewStream

/-- What a stretch of code has done before it came to its end or crashed. -/
structure Attempt (α : Type) where
  made : List α
  crashed : Bool
deriving DecidableEq

namespace Attempt

variable {α β : Type}

/-- Nothing is done. -/
def done : Attempt α := ⟨[], false⟩

/-- One stretch after the other; a crash of the first one keeps the second one from being run. -/
def andThen (a b : Attempt α) : Attempt α :=
  if a.crashed then a else ⟨a.made ++ b.made, b.crashed⟩

/-- A stretch whose crash is caught. -/
def contain (a : Attempt α) : Attempt α := { a with crashed := false }

/-- One delivery after the other, each of them contained. -/
def each (deliver : β → Attempt α) : List β → Attempt α
  | [] => done
  | x :: xs => (deliver x).contain.andThen (each deliver xs)

/-- **A crash keeps nothing from those that come after it.**  Whatever the deliveries come to, all
of them are made, and the round itself does not crash. -/
theorem each_eq (deliver : β → Attempt α) (xs : List β) :
    each deliver xs = ⟨xs.flatMap fun x => (deliver x).made, false⟩ := by
  induction xs with
  | nil => rfl
  | cons x xs ih =>
      have hgoes : (deliver x).contain.crashed = false := rfl
      rw [each, andThen, hgoes, ih]
      rfl

/-- Two deliveries of which the first one crashes.  Without containment the second one is not
made. -/
example :
    let deliver (n : Nat) : Attempt Nat := ⟨[n], n == 1⟩
    each deliver [1, 2] = ⟨[1, 2], false⟩
      ∧ (deliver 1).andThen (deliver 2) = ⟨[1], true⟩ := by decide

end Attempt

end ReviewStream
