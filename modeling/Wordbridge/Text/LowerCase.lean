import Wordbridge.Text.CaseTable

/-!
# Lower case

A text in lower case, by the full mapping of Unicode. Two characters are
special: `İ` becomes two characters, and `Σ` becomes `ς` at the end of a word
and `σ` elsewhere. The end of a word is where a cased character comes before
and none after, not counting the characters that case ignores.
-/

namespace Wordbridge.Text

/-- The number of the lower case of character number `n`, if the run holds it. -/
def CaseRun.lower? (run : CaseRun) (n : Nat) : Option Nat :=
  if run.first ≤ n ∧ n ≤ run.last ∧ (n - run.first) % run.step = 0 then
    some (run.image + (n - run.first))
  else none

def lowerChar (c : Char) : Text :=
  if c = 'İ' then ['i', '\u0307']
  else
    match lowerRuns.findSome? (·.lower? c.toNat) with
    | some n => [Char.ofNat n]
    | none => [c]

/-- Whether the first character that case does not ignore is cased. -/
def startsCased (text : Text) : Bool :=
  match text.find? fun c => !caseIgnorable.contains c with
  | some c => cased.contains c
  | none => false

/-- The lower case of `Σ` between `before`, read backwards, and `rest`. -/
def lowerSigma (before rest : Text) : Char :=
  if startsCased before && !startsCased rest then 'ς' else 'σ'

/-- The lower case of a text that stands behind `before`, which is read backwards. -/
def lowerBehind (before : Text) : Text → Text
  | [] => []
  | c :: rest =>
    (if c = 'Σ' then [lowerSigma before rest] else lowerChar c) ++ lowerBehind (c :: before) rest

def lower (text : Text) : Text :=
  lowerBehind [] text

end Wordbridge.Text
