import Wordbridge.StableSort

/-!
# What sorting gives

For a total preorder, a sorted list is in order, and elements of equal rank
stand in it as they did before (`pairwise_stableSort_of_pairwise`). Where no
two elements have the same rank, it is the only arrangement of its elements
that is in order (`stableSort_eq_of_perm`).

* `stableSort_eq_self`: a list in order stays as it is;
* `stableSort_map`: a change of the elements that keeps their ranks can be
  made before or after sorting;
* `stableSort_stableSort_append`: sorting once in the end is enough, also if
  elements are added in between.
-/

namespace Wordbridge

variable {α : Type}

@[simp] theorem mem_stableSort {le : α → α → Bool} {x : α} {xs : List α} :
    x ∈ stableSort le xs ↔ x ∈ xs :=
  (stableSort_perm le xs).mem_iff

theorem insertBefore_map {le : α → α → Bool} {f : α → α} (h : ∀ a b, le (f a) (f b) = le a b)
    (x : α) (ys : List α) : insertBefore le (f x) (ys.map f) = (insertBefore le x ys).map f := by
  induction ys with
  | nil => rfl
  | cons y ys ih =>
    simp only [List.map_cons, insertBefore, h]
    split
    · rfl
    · rw [ih, List.map_cons]

/-- Elements can be changed before or after sorting, if that keeps their ranks. -/
theorem stableSort_map {le : α → α → Bool} {f : α → α} (h : ∀ a b, le (f a) (f b) = le a b)
    (xs : List α) : stableSort le (xs.map f) = (stableSort le xs).map f := by
  induction xs with
  | nil => rfl
  | cons x xs ih => rw [List.map_cons, stableSort, ih, insertBefore_map h, stableSort]

theorem stableSort_append (le : α → α → Bool) (xs ys : List α) :
    stableSort le (xs ++ ys) = xs.foldr (insertBefore le) (stableSort le ys) := by
  induction xs with
  | nil => rfl
  | cons x xs ih => rw [List.cons_append, stableSort, ih, List.foldr_cons]

section Order

variable {r : α → α → Prop} [DecidableRel r]

/-- A list in order stays as it is. -/
theorem stableSort_eq_self {xs : List α} (h : xs.Pairwise r) :
    stableSort (fun a b => decide (r a b)) xs = xs := by
  induction h with
  | nil => rfl
  | @cons x xs hx _ ih =>
    rw [stableSort, ih]
    cases xs with
    | nil => rfl
    | cons y ys => exact if_pos (decide_eq_true (hx y (List.mem_cons_self ..)))

variable (total : ∀ a b, r a b ∨ r b a) (trans : ∀ {a b c}, r a b → r b c → r a c)

include total trans

/-- Putting an element in its place keeps a list in order, and puts the element in front of those
of its own rank. -/
theorem pairwise_insertBefore {R : α → α → Prop} {x : α} {ys : List α} (hx : ∀ y ∈ ys, R x y)
    (h : ys.Pairwise fun a b => r a b ∧ (r b a → R a b)) :
    (insertBefore (fun a b => decide (r a b)) x ys).Pairwise fun a b =>
      r a b ∧ (r b a → R a b) := by
  induction ys with
  | nil => exact List.pairwise_singleton _ x
  | cons y ys ih =>
    obtain ⟨hy, hys⟩ := List.pairwise_cons.1 h
    simp only [insertBefore, decide_eq_true_eq]
    by_cases hxy : r x y
    · rw [if_pos hxy]
      refine List.pairwise_cons.2 ⟨fun z hz => ⟨?_, fun _ => hx z hz⟩, h⟩
      rcases List.mem_cons.1 hz with rfl | hz
      · exact hxy
      · exact trans hxy (hy z hz).1
    · rw [if_neg hxy]
      refine List.pairwise_cons.2
        ⟨fun z hz => ?_, ih (fun z hz => hx z (List.mem_cons_of_mem _ hz)) hys⟩
      rcases List.mem_cons.1 ((insertBefore_perm _ x ys).mem_iff.1 hz) with rfl | hz
      · exact ⟨(total z y).resolve_left hxy, fun hzy => absurd hzy hxy⟩
      · exact hy z hz

/-- A sorted list is in order, and what holds of the elements from first to last still holds of
those of equal rank. -/
theorem pairwise_stableSort_of_pairwise {R : α → α → Prop} {xs : List α} (h : xs.Pairwise R) :
    (stableSort (fun a b => decide (r a b)) xs).Pairwise fun a b => r a b ∧ (r b a → R a b) := by
  induction h with
  | nil => exact .nil
  | cons hx _ ih =>
    exact pairwise_insertBefore total trans (fun y hy => hx y (mem_stableSort.1 hy)) ih

theorem pairwise_stableSort (xs : List α) :
    (stableSort (fun a b => decide (r a b)) xs).Pairwise r :=
  (pairwise_stableSort_of_pairwise total trans (R := fun _ _ => True)
    (List.pairwise_of_forall fun _ _ => trivial)).imp And.left

/-- Elements of different ranks have one arrangement in order. -/
theorem stableSort_eq_of_perm {xs ys : List α} (hp : ys.Perm xs) (hs : ys.Pairwise r)
    (antisymm : ∀ a ∈ xs, ∀ b ∈ xs, r a b → r b a → a = b) :
    stableSort (fun a b => decide (r a b)) xs = ys :=
  List.Perm.eq_of_pairwise
    (fun a b ha hb => antisymm a (mem_stableSort.1 ha) b (hp.mem_iff.1 hb))
    (pairwise_stableSort total trans xs) hs ((stableSort_perm _ xs).trans hp.symm)

/-- Elements of different ranks can be put in their places one before the other or the other way
round. -/
theorem insertBefore_comm {x y : α} (h : ¬ r x y) (zs : List α) :
    insertBefore (fun a b => decide (r a b)) y (insertBefore (fun a b => decide (r a b)) x zs) =
      insertBefore (fun a b => decide (r a b)) x
        (insertBefore (fun a b => decide (r a b)) y zs) := by
  have hyx : r y x := (total x y).resolve_left h
  induction zs with
  | nil => simp [insertBefore, h, hyx]
  | cons z zs ih =>
    by_cases hxz : r x z
    · simp [insertBefore, h, hyx, hxz, trans hyx hxz]
    · by_cases hyz : r y z
      · simp [insertBefore, h, hxz, hyz]
      · simp [insertBefore, hxz, hyz, ih]

theorem foldr_insertBefore (x : α) (ys zs : List α) :
    (insertBefore (fun a b => decide (r a b)) x ys).foldr
        (insertBefore fun a b => decide (r a b)) zs =
      insertBefore (fun a b => decide (r a b)) x
        (ys.foldr (insertBefore fun a b => decide (r a b)) zs) := by
  induction ys with
  | nil => rfl
  | cons y ys ih =>
    simp only [insertBefore, decide_eq_true_eq]
    by_cases hxy : r x y
    · rw [if_pos hxy, List.foldr_cons]
    · rw [if_neg hxy, List.foldr_cons, ih, insertBefore_comm total trans hxy, List.foldr_cons]

/-- Sorting before elements are added behind the others does not matter to sorting after that. -/
theorem stableSort_stableSort_append (xs ys : List α) :
    stableSort (fun a b => decide (r a b)) (stableSort (fun a b => decide (r a b)) xs ++ ys) =
      stableSort (fun a b => decide (r a b)) (xs ++ ys) := by
  rw [stableSort_append, stableSort_append]
  induction xs with
  | nil => rfl
  | cons x xs ih => rw [stableSort, foldr_insertBefore total trans, ih, List.foldr_cons]

end Order

end Wordbridge
