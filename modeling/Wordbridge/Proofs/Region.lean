import Wordbridge.Proofs.Text
import Wordbridge.Region

/-!
# Where regions start and end

The region at the start of a text runs through the first closer behind its
opener, or else to the end of the text:

* `IsFirst`, `Rule.Spans`: which rule holds, and what its region is, without
  the functions that find them (`rule?_eq_some_iff`, `spans_iff`);
* `openerChars`: the characters that regions start with;
* `IsClosed`, `IsUnclosed`: texts that are one region;
* `exists_rule_of_isClosed`: what follows a closed region does not change it.
-/

namespace Wordbridge

namespace Region

/-- The rule is the first in the list whose opener the text starts with. -/
def IsFirst (rule : Rule) (text : Text) : Prop :=
  rule.opener <+: text ∧
    ∃ before after, rules = before ++ rule :: after ∧ ∀ r ∈ before, ¬ r.opener <+: text

/-- The region of the rule at the start of the text: through the first closer behind the opener,
or the whole text if there is none. -/
inductive Rule.Spans (rule : Rule) (text : Text) : Text → Prop
  | closed {body rest : Text} (h : text = rule.opener ++ (body ++ rule.closer ++ rest))
    (first : Text.FirstAt rule.closer (body ++ rule.closer ++ rest) body rest) :
    Spans rule text (rule.opener ++ body ++ rule.closer)
  | unclosed {body : Text} (h : text = rule.opener ++ body) (never : ¬ rule.closer <:+: body) :
    Spans rule text text

theorem rule?_eq_some_iff {text : Text} {rule : Rule} :
    rule? text = some rule ↔ IsFirst rule text := by
  rw [rule?, List.find?_eq_some_iff_append, IsFirst, List.isPrefixOf_iff_prefix]
  simp only [Bool.not_eq_true', ← Bool.not_eq_true, List.isPrefixOf_iff_prefix]

theorem rule?_eq_none_iff {text : Text} :
    rule? text = none ↔ ∀ rule ∈ rules, ¬ rule.opener <+: text := by
  rw [rule?, List.find?_eq_none]
  simp only [List.isPrefixOf_iff_prefix]

/-- The region that is cut off is the region of the rule. -/
theorem spans_iff {rule : Rule} {text region : Text} (h : rule.opener <+: text) :
    rule.Spans text region ↔ region = (rule.cut text).1 := by
  obtain ⟨tail, rfl⟩ := h
  rw [Rule.cut, List.drop_left]
  constructor
  · rintro (⟨htext, first⟩ | ⟨htext, never⟩)
    · rw [List.append_cancel_left htext, Text.cutAfter?_eq_some_iff.2 ⟨_, rfl, first⟩,
        List.append_assoc]
    · rw [List.append_cancel_left htext, Text.cutAfter?_eq_none_iff.2 never]
  · rintro rfl
    split
    · rename_i body rest hc
      obtain ⟨body, rfl, first⟩ := Text.cutAfter?_eq_some_iff.1 hc
      rw [← List.append_assoc]
      exact .closed (by rw [← first.1]) (first.1 ▸ first)
    · rename_i hc
      exact .unclosed rfl (Text.cutAfter?_eq_none_iff.1 hc)

/-- The characters that the openers start with. -/
def openerChars : List Char :=
  rules.filterMap fun rule => rule.opener.head?

example : openerChars.eraseDups = ['[', '-', '—', '"', '\''] := by decide

/-- No region starts with another character. -/
theorem not_opener_isPrefix {c : Char} (hc : c ∉ openerChars) (text : Text) :
    ∀ rule ∈ rules, ¬ rule.opener <+: c :: text := by
  intro rule hr hp
  exact hc (List.mem_filterMap.2 ⟨rule, hr, Text.head?_of_isPrefix (opener_ne_nil hr) hp⟩)

/-! ## Texts that are one region -/

/-- The text is a region that ends with its closer. -/
def IsClosed (region : Text) : Prop :=
  ∃ rule body, IsFirst rule region ∧ region = rule.opener ++ body ++ rule.closer ∧
    Text.FirstAt rule.closer (body ++ rule.closer) body []

/-- The text is a region without closer. -/
def IsUnclosed (region : Text) : Prop :=
  ∃ rule body, IsFirst rule region ∧ region = rule.opener ++ body ∧ ¬ rule.closer <:+: body

theorem isClosed_iff {region : Text} :
    IsClosed region ↔ ∃ rule, rule? region = some rule ∧
      ∃ front, Text.cutAfter? rule.closer (region.drop rule.opener.length) = some (front, []) := by
  constructor
  · rintro ⟨rule, body, first, rfl, hc⟩
    refine ⟨rule, rule?_eq_some_iff.2 first, body ++ rule.closer, ?_⟩
    rw [List.append_assoc, List.drop_left]
    exact Text.cutAfter?_eq_some_iff.2 ⟨body, rfl, hc⟩
  · rintro ⟨rule, hr, front, hc⟩
    have first := rule?_eq_some_iff.1 hr
    obtain ⟨tail, rfl⟩ := first.1
    rw [List.drop_left] at hc
    obtain ⟨body, -, hat⟩ := Text.cutAfter?_eq_some_iff.1 hc
    obtain rfl : tail = body ++ rule.closer := by rw [hat.1, List.append_nil]
    exact ⟨rule, body, first, by rw [List.append_assoc], hat⟩

instance (region : Text) : Decidable (IsClosed region) :=
  decidable_of_iff ((rule? region).any fun rule =>
    (Text.cutAfter? rule.closer (region.drop rule.opener.length)).any fun cut => cut.2 = []) (by
    rw [isClosed_iff]
    simp [Option.any_eq_true])

/-- No opener goes on behind another opener with a closer of that. -/
theorem not_closer_infix_drop_opener :
    ∀ rule ∈ rules, ∀ rule' ∈ rules, ¬ rule.closer <:+: rule'.opener.drop rule.opener.length := by
  decide

/-- What follows a closed region has no part in its opener. -/
theorem isFirst_append_of_closed {rule : Rule} {body : Text} (rest : Text)
    (h : IsFirst rule (rule.opener ++ body ++ rule.closer)) :
    IsFirst rule (rule.opener ++ body ++ rule.closer ++ rest) := by
  obtain ⟨hp, before, after, hr, hb⟩ := h
  refine ⟨hp.trans (List.prefix_append _ _), before, after, hr, fun r hm hlong => ?_⟩
  rcases List.prefix_or_prefix_of_prefix hlong (List.prefix_append _ rest) with hs | hs
  · exact hb r hm hs
  · obtain ⟨tail, ht⟩ := hs
    refine not_closer_infix_drop_opener rule (by rw [hr]; simp) r (by rw [hr]; simp [hm]) ?_
    rw [← ht, List.append_assoc, List.append_assoc, List.drop_left]
    exact ⟨body, tail, by rw [List.append_assoc]⟩

/-- Nor does it move its end. -/
theorem firstAt_append_of_closed {closer body : Text} (rest : Text)
    (h : Text.FirstAt closer (body ++ closer) body []) :
    Text.FirstAt closer (body ++ closer ++ rest) body rest := by
  refine ⟨rfl, fun body' rest' he => Nat.le_of_not_lt fun hlt => ?_⟩
  have hp : body' ++ closer <+: body ++ closer :=
    List.prefix_of_prefix_length_le ⟨rest', he.symm⟩ (List.prefix_append _ _) (by simp; omega)
  obtain ⟨tail, ht⟩ := hp
  exact Nat.not_le.2 hlt (h.2 body' tail ht.symm)

/-- Whatever follows a closed region, it is the region at the start. -/
theorem exists_rule_of_isClosed {region : Text} (h : IsClosed region) (rest : Text) :
    ∃ rule, IsFirst rule (region ++ rest) ∧ rule.Spans (region ++ rest) region := by
  obtain ⟨rule, body, hf, rfl, hc⟩ := h
  refine ⟨rule, isFirst_append_of_closed rest hf, .closed ?_ (firstAt_append_of_closed rest hc)⟩
  simp only [List.append_assoc]

end Region

end Wordbridge
