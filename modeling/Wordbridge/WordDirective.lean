import Wordbridge.Lexicon

/-!
# Word directives

A map file and a source file write words with directives: a keyword, the
word, `::`, its counterpart and `;`, all on one line. In a map file the
keyword is `ADD` or `SET`, in a source file `#add`; anything else around the
directives of a map file is ignored. A directive whose word is empty writes
nothing.

* `WordDirective.findAll`: the directives of a text, from left to right;
* `Lexicon.ofMapFile`: the words that a map file writes;
* `WordDirective.extract`: the words that a source file writes, and the
  source file without its directives.
-/

namespace Wordbridge

structure WordDirective where
  keyword : Text
  key : Text
  value : Text
  deriving DecidableEq, Repr

namespace WordDirective

def mapKeywords : List Text :=
  ["ADD ".toList, "SET ".toList]

def inlineKeywords : List Text :=
  ["#add ".toList]

def separator : Text :=
  "::".toList

def terminator : Text :=
  ";".toList

def source (directive : WordDirective) : Text :=
  directive.keyword ++ directive.key ++ separator ++ directive.value ++ terminator

/-- The directive with this keyword that the text starts with, and what follows it: the word ends
at the first separator, its counterpart at the first terminator behind that. -/
def startingWith? (text keyword : Text) : Option (WordDirective × Text) := do
  let afterKeyword ← Text.after? keyword text
  let (key, afterKey) ← Text.cutOnLine? separator afterKeyword
  let (value, rest) ← Text.cutOnLine? terminator afterKey
  return (⟨keyword, key, value⟩, rest)

def start? (keywords : List Text) (text : Text) : Option (WordDirective × Text) :=
  keywords.findSome? (startingWith? text)

theorem eq_append_of_startingWith? {text keyword rest : Text} {directive : WordDirective}
    (h : startingWith? text keyword = some (directive, rest)) : text = directive.source ++ rest := by
  simp only [startingWith?, Option.bind_eq_bind, Option.bind_eq_some_iff, Option.pure_def,
    Option.some.injEq, Prod.exists, Prod.mk.injEq] at h
  obtain ⟨t₁, h₁, key, t₂, h₂, value, t₃, h₃, rfl, rfl⟩ := h
  rw [Text.after?_eq_some_iff.1 h₁, Text.eq_append_of_cutOnLine? h₂,
    Text.eq_append_of_cutOnLine? h₃]
  simp [source]

theorem eq_append_of_start? {keywords : List Text} {text rest : Text} {directive : WordDirective}
    (h : start? keywords text = some (directive, rest)) : text = directive.source ++ rest := by
  obtain ⟨keyword, -, hk⟩ := List.exists_of_findSome?_eq_some h
  exact eq_append_of_startingWith? hk

theorem length_lt_of_start? {keywords : List Text} {text rest : Text} {directive : WordDirective}
    (h : start? keywords text = some (directive, rest)) : rest.length < text.length := by
  rw [eq_append_of_start? h]
  simp only [source, separator, List.length_append]
  have : "::".toList.length = 2 := rfl
  omega

/-- The directives of a text: the leftmost first, and each behind the one before it. -/
def findAll (keywords : List Text) : Text → List WordDirective
  | [] => []
  | c :: text =>
    match _h : start? keywords (c :: text) with
    | some (directive, rest) => directive :: findAll keywords rest
    | none => findAll keywords text
  termination_by text => text.length
  decreasing_by
    · exact length_lt_of_start? _h
    · simp

def writes (directives : List WordDirective) : List (Text × Text) :=
  (directives.filter fun d => d.key ≠ []).map fun d => (d.key, d.value)

/-- The words that a source file writes, and the source file without its directives. Each
directive, in the order of their first occurrences, is taken out wherever its text then occurs. -/
def extract (source : Text) : Lexicon × Text :=
  let directives := findAll inlineKeywords source
  (Lexicon.ofPairs (writes directives),
    (directives.map WordDirective.source).eraseDups.foldl
      (fun text directive => Text.eraseAll directive text) source)

end WordDirective

def Lexicon.ofMapFile (content : Text) : Lexicon :=
  Lexicon.ofPairs (WordDirective.writes (WordDirective.findAll WordDirective.mapKeywords content))

end Wordbridge
