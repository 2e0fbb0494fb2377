import Wordbridge.Romanization
import Wordbridge.Text.Quoted

/-!
# Transliteration directives

In a source file, `name(argument)` stands for the romanised argument, where
`name` is chosen in the settings and the argument ends at the first closing
parenthesis. A directive is recognised anywhere, also inside a longer name. It
is found by a regular expression, which a `RegexCompiler` has to accept.
-/

namespace Wordbridge

/-- A compiler of regular expressions. It refuses an expression if its compiled form is larger than
the limit. -/
class RegexCompiler where
  size : Text → Nat
  limit : Nat

namespace RegexCompiler

def Accepts [RegexCompiler] (expression : Text) : Prop :=
  size expression ≤ limit

instance [RegexCompiler] (expression : Text) : Decidable (Accepts expression) :=
  inferInstanceAs (Decidable (_ ≤ _))

/-- Each character takes a state of 32 bytes, and there are ten mebibytes. -/
instance standard : RegexCompiler where
  size expression := 32 * expression.length
  limit := 10 * 1024 * 1024

end RegexCompiler

structure InvalidDirective where
  name : Text
  deriving DecidableEq, Repr

def InvalidDirective.message (error : InvalidDirective) : String :=
  "invalid directive name: " ++ Text.quoted '"' error.name

structure Transliterator where
  name : Text
  table : UnitTable

namespace Transliterator

/-- The regular expression of a directive. In an ASCII identifier there is nothing to escape. -/
def expression (name : Text) : Text :=
  name ++ "\\(([^)]*)\\)".toList

/-- The directive of this name. It has to be an ASCII identifier, and its regular expression has to
be accepted. -/
def ofName [RegexCompiler] (name : Text) (table : UnitTable) :
    Except InvalidDirective Transliterator :=
  if Text.isIdentifier name then
    if RegexCompiler.Accepts (expression name) then .ok ⟨name, table⟩ else .error ⟨name⟩
  else .error ⟨name⟩

/-- The argument of the directive that the text starts with, and what follows the directive. -/
def argument? (transliterator : Transliterator) (text : Text) : Option (Text × Text) := do
  let rest ← Text.after? (transliterator.name ++ ['(']) text
  match rest.dropWhile (· ≠ ')') with
  | [] => none
  | _ :: behind => some (rest.takeWhile (· ≠ ')'), behind)

theorem length_lt_of_argument? {transliterator : Transliterator} {text argument rest : Text}
    (h : transliterator.argument? text = some (argument, rest)) : rest.length < text.length := by
  simp only [argument?, Option.bind_eq_bind, Option.bind_eq_some_iff] at h
  obtain ⟨tail, ht, h⟩ := h
  have hl := Text.length_of_after? ht
  have hd := (List.dropWhile_suffix (l := tail) (· ≠ ')')).length_le
  split at h
  · cases h
  · rename_i hw
    cases h
    rw [hw] at hd
    simp only [List.length_cons, List.length_append] at hd hl
    omega

/-- The text with each directive replaced by its romanised argument, from left to right. -/
def transliterate (transliterator : Transliterator) : Text → Text
  | [] => []
  | c :: text =>
    match _h : transliterator.argument? (c :: text) with
    | some (argument, rest) => transliterator.table.romanize argument ++ transliterate transliterator rest
    | none => c :: transliterate transliterator text
  termination_by text => text.length
  decreasing_by
    · exact length_lt_of_argument? _h
    · simp

end Transliterator

end Wordbridge
