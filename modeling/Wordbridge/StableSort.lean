/-!
# Stable sorting

`stableSort le` arranges a list so that `le` holds from each element to the
next, for a total preorder `le`. Elements of equal rank keep their order.
-/

namespace Wordbridge

variable {α : Type}

/-- Puts `x` in front of the first element that may come behind it. -/
def insertBefore (le : α → α → Bool) (x : α) : List α → List α
  | [] => [x]
  | y :: ys => if le x y then x :: y :: ys else y :: insertBefore le x ys

/-- The list in the order of `le`, equal elements as they were. -/
def stableSort (le : α → α → Bool) : List α → List α
  | [] => []
  | x :: xs => insertBefore le x (stableSort le xs)

theorem insertBefore_perm (le : α → α → Bool) (x : α) (ys : List α) :
    (insertBefore le x ys).Perm (x :: ys) := by
  induction ys with
  | nil => exact .refl _
  | cons y ys ih =>
    simp only [insertBefore]
    split
    · exact .refl _
    · exact (ih.cons y).trans (.swap x y ys)

theorem stableSort_perm (le : α → α → Bool) (xs : List α) : (stableSort le xs).Perm xs := by
  induction xs with
  | nil => exact .refl _
  | cons x xs ih => exact (insertBefore_perm le x _).trans (ih.cons x)

end Wordbridge
