import Mathlib.Data.List.Infix
import Wordbridge.Text

/-!
# Where a mark occurs

The cut of a text after a mark is at the first occurrence of the mark
(`cutAfter?_eq_some_iff`), and there is none exactly if the mark does not occur
(`cutAfter?_eq_none_iff`). A cut on one line is at the first occurrence too, if
that is on the line (`cutOnLine?_eq_some_iff`), and lines behind it do not
change it (`cutOnLine?_append_newline`). Erasing a mark changes nothing where
the mark does not start (`eraseAll_append_of_forall`).
-/

namespace Wordbridge

namespace Text

/-- A mark starts with the first character of each text that it starts. -/
theorem head?_of_isPrefix {mark text : Text} {c : Char} (hne : mark ≠ [])
    (h : mark <+: c :: text) : mark.head? = some c := by
  cases mark with
  | nil => exact absurd rfl hne
  | cons c' mark => rw [List.head?_cons, (List.cons_prefix_cons.1 h).1]

/-- A mark without the character that follows `text` does not reach beyond it. -/
theorem isPrefix_of_isPrefix_append {mark text rest : Text} (h : mark <+: text ++ rest)
    (hc : ∀ c, rest.head? = some c → c ∉ mark) : mark <+: text := by
  rcases List.prefix_or_prefix_of_prefix h (List.prefix_append text rest) with hp | ⟨tail, rfl⟩
  · exact hp
  · rw [List.prefix_append_right_inj] at h
    cases tail with
    | nil => rw [List.append_nil]
    | cons c tail =>
      obtain ⟨rest', rfl⟩ := h
      exact absurd (List.mem_append_right text (List.mem_cons_self ..)) (hc c rfl)

/-- `mark` first occurs in the text behind `body`, and `rest` follows. -/
def FirstAt (mark text body rest : Text) : Prop :=
  text = body ++ mark ++ rest ∧
    ∀ body' rest', text = body' ++ mark ++ rest' → body.length ≤ body'.length

theorem FirstAt.eq {mark text body rest body' rest' : Text} (h : FirstAt mark text body rest)
    (h' : FirstAt mark text body' rest') : body = body' ∧ rest = rest' := by
  have hl : body.length = body'.length :=
    Nat.le_antisymm (h.2 body' rest' h'.1) (h'.2 body rest h.1)
  have he : body ++ (mark ++ rest) = body' ++ (mark ++ rest') := by
    rw [← List.append_assoc, ← List.append_assoc, ← h.1, h'.1]
  obtain ⟨hb, hr⟩ := List.append_inj he hl
  exact ⟨hb, List.append_cancel_left hr⟩

theorem firstAt_nil_iff {mark text rest : Text} :
    FirstAt mark text [] rest ↔ text = mark ++ rest :=
  ⟨fun h => h.1, fun h => ⟨h, fun _ _ _ => Nat.zero_le _⟩⟩

/-- A mark that does not start the text first occurs where it first occurs behind the first
character. -/
theorem firstAt_cons_iff {mark text body rest : Text} {c : Char} :
    FirstAt mark (c :: text) (c :: body) rest ↔
      ¬ mark <+: c :: text ∧ FirstAt mark text body rest := by
  constructor
  · rintro ⟨heq, hfirst⟩
    refine ⟨fun ⟨tail, htail⟩ => ?_, (List.cons.inj heq).2, fun body' rest' he => ?_⟩
    · exact absurd (hfirst [] tail htail.symm) (by simp)
    · exact Nat.le_of_succ_le_succ (hfirst (c :: body') rest' (by rw [he]; rfl))
  · rintro ⟨hn, heq, hfirst⟩
    refine ⟨by rw [heq]; rfl, fun body' rest' he => ?_⟩
    cases body' with
    | nil => exact absurd ⟨rest', he.symm⟩ hn
    | cons c' body' => exact Nat.succ_le_succ (hfirst body' rest' (List.cons.inj he).2)

/-- Of two occurrences of a mark, the later one ends at or behind the end of the earlier one. -/
theorem exists_middle_of_append_eq {mark body rest body' rest' : Text}
    (h : body ++ mark ++ rest = body' ++ mark ++ rest') (hle : body'.length ≤ body.length) :
    ∃ middle, body ++ mark = body' ++ mark ++ middle ∧ rest' = middle ++ rest := by
  have hp : body' ++ mark <+: body ++ mark :=
    List.prefix_of_prefix_length_le ⟨rest', h.symm⟩ (List.prefix_append _ _)
      (by rw [List.length_append, List.length_append]; omega)
  obtain ⟨middle, hmiddle⟩ := hp
  rw [← hmiddle, List.append_assoc] at h
  exact ⟨middle, hmiddle.symm, (List.append_cancel_left h).symm⟩

/-- What follows a mark does not change where it first occurs. -/
theorem FirstAt.append_congr {mark body rest : Text}
    (h : FirstAt mark (body ++ mark ++ rest) body rest) (rest' : Text) :
    FirstAt mark (body ++ mark ++ rest') body rest' := by
  refine ⟨rfl, fun body' tail he => Nat.le_of_not_lt fun hlt => ?_⟩
  obtain ⟨middle, hmiddle, -⟩ := exists_middle_of_append_eq he (Nat.le_of_lt hlt)
  have hle := h.2 body' (middle ++ rest) (by rw [hmiddle, List.append_assoc])
  omega

/-- A mark first occurs where it is put, if even with all but its last character there it does not
occur before. -/
theorem firstAt_append_of_not_isInfix {mark body : Text} (hne : mark ≠ [])
    (h : ¬ mark <:+: body ++ mark.dropLast) (rest : Text) :
    FirstAt mark (body ++ mark ++ rest) body rest := by
  refine ⟨rfl, fun body' rest' he => Nat.le_of_not_lt fun hlt => ?_⟩
  obtain ⟨middle, hmiddle, -⟩ := exists_middle_of_append_eq he (Nat.le_of_lt hlt)
  have hmne : middle ≠ [] := by
    rintro rfl
    have hlength := congrArg List.length hmiddle
    simp only [List.length_append, List.length_nil] at hlength
    omega
  refine h ⟨body', middle.dropLast, ?_⟩
  rw [← List.dropLast_append_of_ne_nil hmne, ← hmiddle, List.dropLast_append_of_ne_nil hne]

/-- A mark that ends in a character which is nowhere else in it occurs first where it is put, if it
does not occur in front of that. -/
theorem firstAt_append_concat {name front : Text} {c : Char} (hc : c ∉ name)
    (h : ¬ name ++ [c] <:+: front) (rest : Text) :
    FirstAt (name ++ [c]) (front ++ (name ++ [c]) ++ rest) front rest := by
  refine firstAt_append_of_not_isInfix (by simp) ?_ rest
  rw [List.dropLast_concat]
  rintro ⟨before, after, heq⟩
  rcases List.append_eq_append_iff.1 heq with ⟨middle, rfl, -⟩ | ⟨middle, hmiddle, hname⟩
  · exact h ⟨before, middle, rfl⟩
  · rcases List.eq_nil_or_concat middle with rfl | ⟨middle, d, rfl⟩
    · rw [List.append_nil] at hmiddle
      exact h ⟨before, [], by rw [List.append_nil, hmiddle]⟩
    · have hlast : before ++ name ++ [c] = front ++ middle ++ [d] := by
        simpa using hmiddle
      have hcd := List.singleton_inj.1 (List.append_inj' hlast rfl).2
      exact hc (by simp [hname, hcd])

theorem FirstAt.not_isInfix {mark text front rest : Text} (hne : mark ≠ [])
    (h : FirstAt mark text front rest) : ¬ mark <:+: front := by
  rintro ⟨before, after, rfl⟩
  have hle := h.2 before (after ++ mark ++ rest) (by rw [h.1]; simp)
  have hpos := List.length_pos_iff.2 hne
  simp only [List.length_append] at hle
  omega

theorem firstAt_of_cutAfter? {mark text front rest : Text}
    (h : cutAfter? mark text = some (front, rest)) :
    ∃ body, front = body ++ mark ∧ FirstAt mark text body rest := by
  induction text generalizing front with
  | nil =>
    simp only [cutAfter?, Option.map_eq_some_iff, Prod.mk.injEq] at h
    obtain ⟨r, hr, rfl, rfl⟩ := h
    exact ⟨[], rfl, firstAt_nil_iff.2 (after?_eq_some_iff.1 hr)⟩
  | cons c text ih =>
    simp only [cutAfter?] at h
    split at h
    · rename_i r hr
      obtain ⟨rfl, rfl⟩ := Prod.mk.inj (Option.some.inj h)
      exact ⟨[], rfl, firstAt_nil_iff.2 (after?_eq_some_iff.1 hr)⟩
    · rename_i hn
      simp only [Option.map_eq_some_iff, Prod.mk.injEq] at h
      obtain ⟨⟨front', rest'⟩, hc, rfl, rfl⟩ := h
      obtain ⟨body, rfl, hfirst⟩ := ih hc
      exact ⟨c :: body, rfl, firstAt_cons_iff.2 ⟨after?_eq_none_iff.1 hn, hfirst⟩⟩

theorem cutAfter?_eq_none_iff {mark text : Text} :
    cutAfter? mark text = none ↔ ¬ mark <:+: text := by
  induction text with
  | nil =>
    rw [cutAfter?, Option.map_eq_none_iff, after?_eq_none_iff, List.prefix_nil, List.infix_nil]
  | cons c text ih =>
    rw [cutAfter?, List.infix_cons_iff, not_or]
    split
    · rename_i r hr
      have hp : mark <+: c :: text := ⟨r, (after?_eq_some_iff.1 hr).symm⟩
      simp [hp]
    · rename_i hn
      rw [Option.map_eq_none_iff, ih, after?_eq_none_iff] at *
      simp [hn]

/-- The cut is at the first occurrence of the mark. -/
theorem cutAfter?_eq_some_iff {mark text front rest : Text} :
    cutAfter? mark text = some (front, rest) ↔
      ∃ body, front = body ++ mark ∧ FirstAt mark text body rest := by
  refine ⟨firstAt_of_cutAfter?, fun ⟨body, hfront, h⟩ => ?_⟩
  match hc : cutAfter? mark text with
  | none => exact absurd ⟨body, rest, h.1.symm⟩ (cutAfter?_eq_none_iff.1 hc)
  | some (front', rest') =>
    obtain ⟨body', hfront', h'⟩ := firstAt_of_cutAfter? hc
    obtain ⟨rfl, rfl⟩ := h.eq h'
    rw [hfront, hfront']

/-! ## Cuts on one line -/

/-- The cut on a line is at the first occurrence of the mark, if that is on the line. -/
theorem cutOnLine?_eq_some_iff {mark text front rest : Text} :
    cutOnLine? mark text = some (front, rest) ↔
      FirstAt mark text front rest ∧ '\n' ∉ front := by
  induction text generalizing front with
  | nil =>
    rw [cutOnLine?, Option.map_eq_some_iff]
    constructor
    · rintro ⟨r, hr, heq⟩
      cases heq
      exact ⟨firstAt_nil_iff.2 (after?_eq_some_iff.1 hr), List.not_mem_nil⟩
    · rintro ⟨h, -⟩
      obtain ⟨rfl, rfl, rfl⟩ : front = [] ∧ mark = [] ∧ rest = [] := by simpa using h.1.symm
      exact ⟨[], rfl, rfl⟩
  | cons c text ih =>
    rw [cutOnLine?]
    split
    · rename_i r hr
      have hfirst := firstAt_nil_iff.2 (after?_eq_some_iff.1 hr)
      constructor
      · intro h
        cases h
        exact ⟨hfirst, List.not_mem_nil⟩
      · rintro ⟨h, -⟩
        obtain ⟨rfl, rfl⟩ := hfirst.eq h
        rfl
    · rename_i hn
      rw [after?_eq_none_iff] at hn
      constructor
      · intro h
        split at h
        · cases h
        · rename_i hc
          obtain ⟨⟨front', rest'⟩, hcut, heq⟩ := Option.map_eq_some_iff.1 h
          cases heq
          obtain ⟨hfirst, hline⟩ := ih.1 hcut
          exact ⟨firstAt_cons_iff.2 ⟨hn, hfirst⟩, by simpa [hline] using Ne.symm hc⟩
      · rintro ⟨h, hline⟩
        cases front with
        | nil => exact absurd ⟨rest, (firstAt_nil_iff.1 h).symm⟩ hn
        | cons c' front =>
          obtain rfl : c = c' := (List.cons.inj h.1).1
          rw [List.mem_cons, not_or] at hline
          rw [if_neg (Ne.symm hline.1), ih.2 ⟨(firstAt_cons_iff.1 h).2, hline.2⟩]
          rfl

/-- A mark that occurs on the first line is cut at, there or before. -/
theorem exists_cutOnLine?_of_append (mark rest : Text) {front : Text} (h : '\n' ∉ front) :
    ∃ front' middle, front ++ mark = front' ++ mark ++ middle ∧
      cutOnLine? mark (front ++ mark ++ rest) = some (front', middle ++ rest) := by
  match hc : cutAfter? mark (front ++ mark ++ rest) with
  | none => exact absurd ⟨front, rest, rfl⟩ (cutAfter?_eq_none_iff.1 hc)
  | some (_, rest') =>
    obtain ⟨front', -, hfirst⟩ := cutAfter?_eq_some_iff.1 hc
    have hle := hfirst.2 front rest rfl
    obtain ⟨middle, hmiddle, rfl⟩ := exists_middle_of_append_eq hfirst.1 hle
    have hp : front' <+: front := List.prefix_of_prefix_length_le
      ⟨mark ++ (middle ++ rest), (List.append_assoc ..).symm.trans hfirst.1.symm⟩
      ⟨mark ++ rest, (List.append_assoc ..).symm⟩ hle
    have hline : '\n' ∉ front' := fun hm => h (hp.subset hm)
    exact ⟨front', middle, hmiddle, cutOnLine?_eq_some_iff.2 ⟨hfirst, hline⟩⟩

/-- A mark without newlines is not changed by the lines behind that of the text. -/
theorem after?_append_newline {mark : Text} (h : '\n' ∉ mark) (text rest : Text) :
    after? mark (text ++ '\n' :: rest) = (after? mark text).map (· ++ '\n' :: rest) := by
  cases ha : after? mark text with
  | some tail =>
    rw [after?_eq_some_iff.1 ha, List.append_assoc]
    exact after?_eq_some_iff.2 rfl
  | none =>
    refine after?_eq_none_iff.2 fun hp => after?_eq_none_iff.1 ha ?_
    refine isPrefix_of_isPrefix_append hp fun c hc => ?_
    rwa [← Option.some.inj hc]

/-- Nor is the cut at such a mark. -/
theorem cutOnLine?_append_newline {mark : Text} (h : '\n' ∉ mark) (text rest : Text) :
    cutOnLine? mark (text ++ '\n' :: rest) =
      (cutOnLine? mark text).map (Prod.map id (· ++ '\n' :: rest)) := by
  induction text with
  | nil =>
    have ha := after?_append_newline h [] rest
    rw [List.nil_append] at ha ⊢
    simp only [cutOnLine?, ha]
    cases after? mark [] with
    | none => rfl
    | some tail => rfl
  | cons c text ih =>
    have ha := after?_append_newline h (c :: text) rest
    rw [List.cons_append] at ha ⊢
    simp only [cutOnLine?, ha, ih]
    cases after? mark (c :: text) with
    | some tail => rfl
    | none =>
      simp only [Option.map_none]
      split
      · rfl
      · cases cutOnLine? mark text with
        | none => rfl
        | some cut => rfl

/-! ## Erasing -/

theorem eraseAll_cons_of_not_isPrefix {mark text : Text} {c : Char} (h : ¬ mark <+: c :: text) :
    eraseAll mark (c :: text) = c :: eraseAll mark text := by
  rw [eraseAll]
  split
  · rename_i rest hr
    exact absurd ⟨rest, (after?_eq_some_iff.1 hr).symm⟩ h
  · rfl

theorem eraseAll_append_self {mark : Text} (hne : mark ≠ []) (rest : Text) :
    eraseAll mark (mark ++ rest) = eraseAll mark rest := by
  obtain ⟨c, tail, hmark⟩ := List.exists_cons_of_ne_nil hne
  have hafter : after? mark (c :: (tail ++ rest)) = some rest :=
    after?_eq_some_iff.2 (by rw [hmark]; rfl)
  have htext : mark ++ rest = c :: (tail ++ rest) := by rw [hmark]; rfl
  rw [htext, eraseAll]
  split
  · rename_i rest' hr
    rw [hafter] at hr
    rw [if_neg hne, Option.some.inj hr]
  · rename_i hn
    rw [hafter] at hn
    cases hn

/-- A text at none of whose characters the mark starts stays as it is. -/
theorem eraseAll_append_of_forall {mark text rest : Text}
    (h : ∀ front back, text = front ++ back → back ≠ [] → ¬ mark <+: back ++ rest) :
    eraseAll mark (text ++ rest) = text ++ eraseAll mark rest := by
  induction text with
  | nil => rfl
  | cons c text ih =>
    have hc := h [] (c :: text) rfl (List.cons_ne_nil _ _)
    rw [List.cons_append] at hc ⊢
    rw [eraseAll_cons_of_not_isPrefix hc, ih, List.cons_append]
    exact fun front back he => h (c :: front) back (by rw [he]; rfl)

end Text

end Wordbridge
