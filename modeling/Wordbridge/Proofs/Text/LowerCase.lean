import Wordbridge.Proofs.Charset.Utf8
import Wordbridge.Text.LowerCase

/-!
# Texts in lower case

What a character becomes in lower case is in lower case itself (`IsLower`),
since the images of the runs of the table lie outside all runs
(`avoids_of_mem`). So a text is its own lower case exactly if each of its
characters is (`lower_eq_self_iff`).

Of what stands before and behind a `Σ`, only the first character counts that
case does not ignore (`startsCased_cons`).
-/

namespace Wordbridge.Text

/-- The character is in lower case, wherever it stands. -/
def IsLower (c : Char) : Prop :=
  c ≠ 'Σ' ∧ lowerChar c = [c]

instance (c : Char) : Decidable (IsLower c) :=
  inferInstanceAs (Decidable (_ ∧ _))

/-! ## The table -/

/-- The number of the lower case of the last character. -/
def CaseRun.imageLast (run : CaseRun) : Nat :=
  run.image + (run.last - run.first)

/-- No lower case of the one run is in the other run: their numbers lie apart, or the two take
turns. -/
def CaseRun.avoids (run other : CaseRun) : Bool :=
  -- The comparisons of numbers that the kernel has by itself: the table is checked pair by pair.
  Nat.blt run.imageLast other.first || Nat.blt other.last run.image ||
    (Nat.beq other.step 2 && Nat.beq ((run.image + other.first) % 2) 1 &&
      (Nat.beq run.step 2 || Nat.beq run.first run.last))

/-- The lower cases of the run are characters, and not `İ`. -/
def CaseRun.isProper (run : CaseRun) : Bool :=
  (Nat.blt run.imageLast 0xD800 || (Nat.blt 0xDFFF run.image && Nat.blt run.imageLast 0x110000)) &&
    (Nat.blt run.imageLast 0x130 || Nat.blt 0x130 run.image)

theorem avoids_of_mem {run other : CaseRun} (h : run ∈ lowerRuns) (h' : other ∈ lowerRuns) :
    run.avoids other = true := by
  have hall : (lowerRuns.all fun run => lowerRuns.all run.avoids) = true := by decide +kernel
  exact List.all_eq_true.1 (List.all_eq_true.1 hall run h) other h'

theorem isProper_of_mem {run : CaseRun} (h : run ∈ lowerRuns) : run.isProper = true := by
  have hall : lowerRuns.all CaseRun.isProper = true := by decide +kernel
  exact List.all_eq_true.1 hall run h

variable {run other : CaseRun} {m n : Nat}

theorem CaseRun.lower?_eq_some_iff :
    run.lower? m = some n ↔
      (run.first ≤ m ∧ m ≤ run.last ∧ (m - run.first) % run.step = 0) ∧
        n = run.image + (m - run.first) := by
  unfold lower?
  split
  · rename_i h
    simp [h, eq_comm]
  · rename_i h
    simp [h]

theorem CaseRun.lower?_eq_none_of_avoids (h : run.avoids other = true)
    (hn : run.lower? m = some n) : other.lower? n = none := by
  obtain ⟨⟨hfirst, hlast, hstep⟩, rfl⟩ := lower?_eq_some_iff.1 hn
  simp only [avoids, imageLast, Bool.or_eq_true, Bool.and_eq_true, Nat.blt_eq, Nat.beq_eq] at h
  refine if_neg fun hother => ?_
  obtain ⟨hfirst', hlast', hstep'⟩ := hother
  rcases h with (h | h) | ⟨⟨htwo, hodd⟩, heven | hsingle⟩
  · omega
  · omega
  · rw [htwo] at hstep'
    rw [heven] at hstep
    omega
  · rw [htwo] at hstep'
    omega

theorem CaseRun.isValidChar_of_isProper (h : run.isProper = true) (hn : run.lower? m = some n) :
    n.isValidChar ∧ n ≠ 0x130 := by
  obtain ⟨⟨hfirst, hlast, -⟩, rfl⟩ := lower?_eq_some_iff.1 hn
  simp only [isProper, imageLast, Bool.or_eq_true, Bool.and_eq_true, Nat.blt_eq] at h
  unfold Nat.isValidChar
  omega

/-! ## Characters -/

/-- A character that is in no run is in lower case. -/
theorem isLower_of_forall {c : Char} (hdot : c ≠ 'İ')
    (h : ∀ run ∈ lowerRuns, run.lower? c.toNat = none) : IsLower c := by
  have hnone : lowerRuns.findSome? (·.lower? c.toNat) = none := List.findSome?_eq_none_iff.2 h
  constructor
  · rintro rfl
    exact absurd hnone (by decide +kernel)
  · rw [lowerChar, if_neg hdot, hnone]

theorem isLower_of_mem_lowerChar {c d : Char} (h : d ∈ lowerChar c) : IsLower d := by
  unfold lowerChar at h
  split at h
  · have hboth : IsLower 'i' ∧ IsLower '\u0307' := by decide +kernel
    rcases List.mem_cons.1 h with rfl | h
    · exact hboth.1
    · rw [List.mem_singleton.1 h]
      exact hboth.2
  · rename_i hdot
    split at h
    · rename_i n hn
      obtain ⟨run, hrun, hn⟩ := List.exists_of_findSome?_eq_some hn
      obtain ⟨hvalid, hne⟩ := CaseRun.isValidChar_of_isProper (isProper_of_mem hrun) hn
      have htoNat : (Char.ofNat n).toNat = n := toNat_ofNat_of_isValidChar hvalid
      rw [List.mem_singleton.1 h]
      refine isLower_of_forall (fun heq => hne ?_) fun other hother => ?_
      · rw [← htoNat, heq]
        rfl
      · rw [htoNat]
        exact CaseRun.lower?_eq_none_of_avoids (avoids_of_mem hrun hother) hn
    · rename_i hn
      rw [List.mem_singleton.1 h]
      exact isLower_of_forall hdot (List.findSome?_eq_none_iff.1 hn)

theorem isLower_lowerSigma (before rest : Text) : IsLower (lowerSigma before rest) := by
  have hboth : IsLower 'ς' ∧ IsLower 'σ' := by decide +kernel
  unfold lowerSigma
  split
  · exact hboth.1
  · exact hboth.2

/-- An ASCII letter is in lower case if it is one from `a` to `z`. -/
theorem isLower_of_le_of_le {c : Char} (h : 0x61 ≤ c.toNat) (h' : c.toNat ≤ 0x7A) : IsLower c := by
  have hruns : ∀ run ∈ lowerRuns, run.last < 0x61 ∨ 0x7A < run.first := by decide +kernel
  refine isLower_of_forall ?_ fun run hrun => if_neg fun hmem => ?_
  · rintro rfl
    exact absurd h' (by decide)
  · have := hruns run hrun
    omega

/-! ## Texts -/

theorem isLower_of_mem_lowerBehind {before text : Text} {d : Char}
    (h : d ∈ lowerBehind before text) : IsLower d := by
  induction text generalizing before with
  | nil => cases h
  | cons c rest ih =>
    rw [lowerBehind, List.mem_append] at h
    rcases h with h | h
    · split at h
      · rw [List.mem_singleton.1 h]
        exact isLower_lowerSigma before rest
      · exact isLower_of_mem_lowerChar h
    · exact ih h

theorem lowerBehind_eq_self {before text : Text} (h : ∀ c ∈ text, IsLower c) :
    lowerBehind before text = text := by
  induction text generalizing before with
  | nil => rfl
  | cons c rest ih =>
    obtain ⟨hsigma, hc⟩ := h c (List.mem_cons_self ..)
    rw [lowerBehind, if_neg hsigma, hc, ih fun d hd => h d (List.mem_cons_of_mem _ hd)]
    rfl

/-- A text is its own lower case if each of its characters is. -/
theorem lower_eq_self_iff {text : Text} : lower text = text ↔ ∀ c ∈ text, IsLower c := by
  constructor
  · intro h c hc
    rw [← h] at hc
    exact isLower_of_mem_lowerBehind hc
  · exact lowerBehind_eq_self

/-! ## What stands before and behind -/

theorem startsCased_cons (c : Char) (text : Text) :
    startsCased (c :: text) =
      if caseIgnorable.contains c then startsCased text else cased.contains c := by
  unfold startsCased
  rw [List.find?_cons]
  cases caseIgnorable.contains c with
  | true => rfl
  | false => rfl

theorem startsCased_cons_congr {text text' : Text} (c : Char)
    (h : startsCased text = startsCased text') :
    startsCased (c :: text) = startsCased (c :: text') := by
  rw [startsCased_cons, startsCased_cons, h]

end Wordbridge.Text
