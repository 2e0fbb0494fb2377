import Wordbridge.Proofs.Text

/-!
# Offsets in bytes

A place in a text is the number of UTF-8 bytes in front of it. It is an offset
of the text if it is not inside a character (`IsOffset`), and two offsets mark
off a slice (`IsSlice`):

* `dropBytes?_eq_some_iff`: a text can be cut exactly at its offsets;
* `eq_and_eq_of_byteLength_eq`: an offset cuts it in one way;
* `byteLength_le_iff`: of two beginnings of one text, the one with more
  characters is the one with more bytes.
-/

namespace Wordbridge.Text

@[simp]
theorem byteLength_nil : byteLength [] = 0 := rfl

@[simp]
theorem byteLength_cons (c : Char) (text : Text) :
    byteLength (c :: text) = c.utf8Size + byteLength text := rfl

@[simp]
theorem byteLength_append (text rest : Text) :
    byteLength (text ++ rest) = byteLength text + byteLength rest := by
  induction text with
  | nil => simp
  | cons c text ih => simp [ih, Nat.add_assoc]

theorem byteLength_eq_zero_iff {text : Text} : byteLength text = 0 ↔ text = [] := by
  cases text with
  | nil => simp
  | cons c text =>
    have hpos := c.utf8Size_pos
    simp only [byteLength_cons, reduceCtorEq, iff_false]
    omega

theorem byteLength_pos {text : Text} (h : text ≠ []) : 0 < byteLength text :=
  Nat.pos_of_ne_zero fun hzero => h (byteLength_eq_zero_iff.1 hzero)

theorem byteLength_le_of_isPrefix {front text : Text} (h : front <+: text) :
    byteLength front ≤ byteLength text := by
  obtain ⟨back, rfl⟩ := h
  simp

/-- Of two beginnings of a text, the one with fewer bytes starts the other. -/
theorem isPrefix_of_byteLength_le {front front' text : Text} (h : front <+: text)
    (h' : front' <+: text) (hle : byteLength front ≤ byteLength front') : front <+: front' := by
  rcases List.prefix_or_prefix_of_prefix h h' with hp | ⟨back, rfl⟩
  · exact hp
  · simp only [byteLength_append] at hle
    have hback : back = [] := byteLength_eq_zero_iff.1 (by omega)
    simp [hback]

/-- To count the bytes of the beginnings of a text is to count their characters. -/
theorem byteLength_le_iff {front front' text : Text} (h : front <+: text) (h' : front' <+: text) :
    byteLength front ≤ byteLength front' ↔ front.length ≤ front'.length := by
  constructor
  · intro hle
    exact (isPrefix_of_byteLength_le h h' hle).length_le
  · intro hle
    exact byteLength_le_of_isPrefix (List.prefix_of_prefix_length_le h h' hle)

/-- A number of bytes cuts a text in one way. -/
theorem eq_and_eq_of_byteLength_eq {front back front' back' : Text}
    (h : front ++ back = front' ++ back') (hl : byteLength front = byteLength front') :
    front = front' ∧ back = back' := by
  have hp : front <+: front ++ back := List.prefix_append _ _
  have hp' : front' <+: front ++ back := ⟨back', h.symm⟩
  have hle := (byteLength_le_iff hp hp').1 (by omega)
  have hge := (byteLength_le_iff hp' hp).1 (by omega)
  exact List.append_inj h (by omega)

/-- A text is cut between two of its characters, where the bytes in front of the cut are as many as
asked for. -/
theorem dropBytes?_eq_some_iff {offset : Nat} {text rest : Text} :
    dropBytes? offset text = some rest ↔ ∃ front, text = front ++ rest ∧ byteLength front = offset := by
  induction text generalizing offset with
  | nil =>
    by_cases hzero : offset = 0
    · subst hzero
      simp only [dropBytes?, ite_true, Option.some.injEq]
      constructor
      · rintro rfl
        exact ⟨[], rfl, rfl⟩
      · rintro ⟨front, hnil, -⟩
        exact (List.append_eq_nil_iff.1 hnil.symm).2.symm
    · simp only [dropBytes?, hzero, ite_false, reduceCtorEq, false_iff]
      rintro ⟨front, hnil, hfront⟩
      rw [(List.append_eq_nil_iff.1 hnil.symm).1] at hfront
      exact hzero hfront.symm
  | cons c text ih =>
    have hpos := c.utf8Size_pos
    by_cases hzero : offset = 0
    · subst hzero
      simp only [dropBytes?, ite_true, Option.some.injEq, byteLength_eq_zero_iff]
      constructor
      · rintro rfl
        exact ⟨[], rfl, rfl⟩
      · rintro ⟨front, htext, rfl⟩
        exact htext
    · have hcons : (∃ front, c :: text = front ++ rest ∧ byteLength front = offset) ↔
          ∃ front, text = front ++ rest ∧ c.utf8Size + byteLength front = offset := by
        constructor
        · rintro ⟨front, htext, hfront⟩
          cases front with
          | nil => exact absurd hfront.symm hzero
          | cons c' front =>
            obtain ⟨rfl, rfl⟩ := List.cons.inj htext
            exact ⟨front, rfl, hfront⟩
        · rintro ⟨front, rfl, hfront⟩
          exact ⟨c :: front, rfl, hfront⟩
      rw [hcons]
      by_cases hle : c.utf8Size ≤ offset
      · simp only [dropBytes?, hzero, hle, ite_false, ite_true, ih]
        refine exists_congr fun front => and_congr_right fun _ => ?_
        omega
      · simp only [dropBytes?, hzero, hle, ite_false, reduceCtorEq, false_iff]
        rintro ⟨front, -, hfront⟩
        omega

theorem dropBytes?_append (front rest : Text) :
    dropBytes? (byteLength front) (front ++ rest) = some rest :=
  dropBytes?_eq_some_iff.2 ⟨front, rfl, rfl⟩

/-- The place behind so many bytes is not inside a character of the text. -/
def IsOffset (text : Text) (offset : Nat) : Prop :=
  ∃ front back, text = front ++ back ∧ byteLength front = offset

/-- The bytes of the text from `start` up to `stop` are those of `piece`. -/
def IsSlice (text : Text) (start stop : Nat) (piece : Text) : Prop :=
  ∃ front back, text = front ++ piece ++ back ∧ byteLength front = start ∧
    start + byteLength piece = stop

theorem isOffset_of_append {front back : Text} : IsOffset (front ++ back) (byteLength front) :=
  ⟨front, back, rfl, rfl⟩

theorem IsOffset.le_byteLength {text : Text} {offset : Nat} (h : IsOffset text offset) :
    offset ≤ byteLength text := by
  obtain ⟨front, back, rfl, rfl⟩ := h
  simp

/-- A slice behind the beginning of a text starts what follows there. -/
theorem isSlice_append_iff {front rest piece : Text} {stop : Nat} :
    IsSlice (front ++ rest) (byteLength front) stop piece ↔
      piece <+: rest ∧ stop = byteLength (front ++ piece) := by
  constructor
  · rintro ⟨front', back, htext, hfront, rfl⟩
    rw [List.append_assoc] at htext
    obtain ⟨rfl, rfl⟩ := eq_and_eq_of_byteLength_eq htext hfront.symm
    exact ⟨List.prefix_append _ _, by simp⟩
  · rintro ⟨⟨back, rfl⟩, rfl⟩
    exact ⟨front, back, by simp, rfl, by simp⟩

/-- Two offsets mark off one slice. -/
theorem IsSlice.eq {text piece piece' : Text} {start stop : Nat} (h : IsSlice text start stop piece)
    (h' : IsSlice text start stop piece') : piece = piece' := by
  obtain ⟨front, back, rfl, rfl, rfl⟩ := h
  rw [List.append_assoc] at h'
  obtain ⟨hp, hstop⟩ := isSlice_append_iff.1 h'
  obtain ⟨back', hback⟩ := hp
  simp only [byteLength_append] at hstop
  exact (eq_and_eq_of_byteLength_eq hback.symm (by omega)).1

end Wordbridge.Text
