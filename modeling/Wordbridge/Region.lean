import Wordbridge.Text

/-!
# Protected regions

The parts of a script that substitution leaves alone: long brackets, comments
and quoted strings. A region starts with the opener of a rule and runs through
the first closer behind it, or to the end of the text if there is none. There
are no escapes. Where the openers of several rules fit, the first rule of
`Region.rules` holds.
-/

namespace Wordbridge.Region

structure Rule where
  opener : Text
  closer : Text
  deriving DecidableEq, Repr

/-- The kinds of regions, the first that fits first. A comment may also start with a dash `—` in
place of the two hyphens. -/
def rules : List Rule :=
  [⟨"[[".toList, "]]".toList⟩,
    ⟨"[=[".toList, "]=]".toList⟩,
    ⟨"--[[".toList, "]]".toList⟩,
    ⟨"--[=[".toList, "]=]".toList⟩,
    ⟨"—[[".toList, "]]".toList⟩,
    ⟨"—[=[".toList, "]=]".toList⟩,
    ⟨"--".toList, "\n".toList⟩,
    ⟨"\"".toList, "\"".toList⟩,
    ⟨"'".toList, "'".toList⟩]

def rule? (text : Text) : Option Rule :=
  rules.find? fun rule => rule.opener.isPrefixOf text

theorem opener_ne_nil {rule : Rule} (h : rule ∈ rules) : rule.opener ≠ [] := by
  revert rule
  decide

theorem mem_rules_of_rule? {text : Text} {rule : Rule} (h : rule? text = some rule) :
    rule ∈ rules :=
  List.mem_of_find?_eq_some h

theorem opener_isPrefix_of_rule? {text : Text} {rule : Rule} (h : rule? text = some rule) :
    rule.opener <+: text :=
  List.isPrefixOf_iff_prefix.1 (by simpa using List.find?_some h)

/-- The region of the rule that starts the text, and what follows it. -/
def Rule.cut (rule : Rule) (text : Text) : Text × Text :=
  match Text.cutAfter? rule.closer (text.drop rule.opener.length) with
  | some (body, rest) => (rule.opener ++ body, rest)
  | none => (text, [])

/-- The byte at which the region of the rule that starts at byte `start` ends. -/
def Rule.endOffset (rule : Rule) (text : Text) (start : Nat) : Nat :=
  match Text.dropBytes? start text with
  | some rest => start + Text.byteLength (rule.cut rest).1
  | none => Text.byteLength text

end Wordbridge.Region
