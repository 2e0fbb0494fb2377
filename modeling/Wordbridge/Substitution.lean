import Wordbridge.Lexicon
import Wordbridge.Region

/-!
# Substitution

The words of a lexicon are replaced in one pass from left to right. The text
is cut into segments: where a protected region starts, the region; else the
longest word that the text goes on with; else one character. Only words are
replaced.

* `Matcher.longest?`: the longest word that a text starts with;
* `Matcher.segments`: the segments of a text;
* `Lexicon.substitute`: the text with its words replaced.
-/

namespace Wordbridge

/-- The patterns of a direction, and for each character those that start with it. -/
structure Matcher where
  patterns : Array Pattern
  buckets : Std.TreeMap Char (List Nat)

namespace Matcher

def addToBucket (buckets : Std.TreeMap Char (List Nat)) (pattern : Pattern) (position : Nat) :
    Std.TreeMap Char (List Nat) :=
  match pattern.word with
  | [] => buckets
  | first :: _ => buckets.insert first (buckets.getD first [] ++ [position])

/-- A matcher that tries the patterns in this order. -/
def ofPatterns (patterns : List Pattern) : Matcher where
  patterns := patterns.toArray
  buckets := patterns.zipIdx.foldl (fun buckets (p, i) => addToBucket buckets p i) ∅

def ofLexicon (lexicon : Lexicon) (direction : Direction) : Matcher :=
  ofPatterns (lexicon.patterns direction)

def matchAt? (matcher : Matcher) (text : Text) (position : Nat) : Option Pattern :=
  matcher.patterns[position]?.filter fun p => p.word.isPrefixOf text

/-- The first pattern whose word the text starts with. With the longest words first, that is the
longest such word. -/
def longest? (matcher : Matcher) (text : Text) : Option Pattern :=
  match text with
  | [] => none
  | first :: _ => (matcher.buckets.getD first []).findSome? (matcher.matchAt? text)

end Matcher

/-- A piece of a text in one pass over it. -/
inductive Segment where
  | region (text : Text)
  | word (pattern : Pattern)
  | plain (c : Char)
  deriving DecidableEq, Repr

namespace Segment

def source : Segment → Text
  | .region text => text
  | .word pattern => pattern.word
  | .plain c => [c]

def image : Segment → Text
  | .region text => text
  | .word pattern => pattern.image
  | .plain c => [c]

end Segment

namespace Matcher

def next (matcher : Matcher) (c : Char) (text : Text) : Segment :=
  match Region.rule? (c :: text) with
  | some rule => .region (rule.cut (c :: text)).1
  | none =>
    match matcher.longest? (c :: text) with
    | some pattern => .word pattern
    | none => .plain c

/-- The segments of a text: each starts where the one before it ends, and none is empty. -/
def segments (matcher : Matcher) : Text → List Segment
  | [] => []
  | c :: text =>
    let segment := matcher.next c text
    segment :: segments matcher (text.drop (segment.source.length - 1))
  termination_by text => text.length
  decreasing_by simp only [List.length_drop, List.length_cons]; omega

/-- The text with its words replaced. -/
def substitute (matcher : Matcher) (text : Text) : Text :=
  (matcher.segments text).flatMap Segment.image

end Matcher

def Lexicon.substitute (lexicon : Lexicon) (direction : Direction) (text : Text) : Text :=
  (Matcher.ofLexicon lexicon direction).substitute text

end Wordbridge
