import Std.Data.TreeMap
import Wordbridge.Direction
import Wordbridge.StableSort

/-!
# Lexicons

A lexicon is a list of words with their counterparts. A word is written with
`insert`; writing it again keeps its place and changes its counterpart. Each
write has a rank, so that the lexicon can also be read backwards: of several
words with one counterpart, the one written last stands for it.

* `Lexicon.get?`, `Lexicon.insert`, `Lexicon.ofPairs`: look up and write;
* `Lexicon.merge`: write all words of another lexicon, in the order in which
  they were last written there;
* `Lexicon.sort`: the longest words first;
* `Lexicon.patterns`: the replacements of a direction, the longest first.
-/

namespace Wordbridge

/-- A word, its counterpart, and the rank of the write that last set it. -/
structure Entry where
  key : Text
  value : Text
  rank : Nat
  deriving DecidableEq, Repr

structure Lexicon where
  entries : Array Entry := #[]
  /-- The position of each word among the entries. -/
  index : Std.TreeMap Text Nat := ∅
  nextRank : Nat := 0

structure Pattern where
  word : Text
  image : Text
  deriving DecidableEq, Repr

namespace Lexicon

def empty : Lexicon := {}

instance : Inhabited Lexicon := ⟨empty⟩

def get? (lexicon : Lexicon) (key : Text) : Option Text :=
  lexicon.index[key]?.bind fun position => lexicon.entries[position]?.map Entry.value

def contains (lexicon : Lexicon) (key : Text) : Bool :=
  lexicon.index.contains key

def size (lexicon : Lexicon) : Nat :=
  lexicon.entries.size

def pairs (lexicon : Lexicon) : List (Text × Text) :=
  lexicon.entries.toList.map fun e => (e.key, e.value)

/-- Writes a word: in its place if the lexicon has it, else at the end. -/
def insert (lexicon : Lexicon) (key value : Text) : Lexicon :=
  match lexicon.index[key]? with
  | some position =>
    { lexicon with
      entries := lexicon.entries.modify position fun e =>
        { e with value := value, rank := lexicon.nextRank }
      nextRank := lexicon.nextRank + 1 }
  | none =>
    { entries := lexicon.entries.push ⟨key, value, lexicon.nextRank⟩
      index := lexicon.index.insert key lexicon.entries.size
      nextRank := lexicon.nextRank + 1 }

/-- Writes a word, and gives the counterpart that it had before. -/
def getThenInsert? (lexicon : Lexicon) (key value : Text) : Option Text × Lexicon :=
  (lexicon.get? key, lexicon.insert key value)

def insertAll (lexicon : Lexicon) (words : List (Text × Text)) : Lexicon :=
  words.foldl (fun lexicon (key, value) => lexicon.insert key value) lexicon

def ofPairs (words : List (Text × Text)) : Lexicon :=
  empty.insertAll words

/-- The words in the order of their last writes. -/
def byRank (lexicon : Lexicon) : List Entry :=
  stableSort (fun a b => a.rank ≤ b.rank) lexicon.entries.toList

/-- Writes the words of `other`, in the order of their last writes there. -/
def merge (lexicon other : Lexicon) : Lexicon :=
  lexicon.insertAll (other.byRank.map fun e => (e.key, e.value))

def indexOf (entries : List Entry) : Std.TreeMap Text Nat :=
  entries.zipIdx.foldl (fun index (e, position) => index.insert e.key position) ∅

/-- The longest words first; words of one length keep their order. -/
def sort (lexicon : Lexicon) : Lexicon :=
  let entries := stableSort (fun a b => b.key.length ≤ a.key.length) lexicon.entries.toList
  { lexicon with entries := entries.toArray, index := indexOf entries }

def isSorted (lexicon : Lexicon) : Bool :=
  let lengths := lexicon.entries.toList.map (·.key.length)
  (lengths.zip (lengths.drop 1)).all fun (a, b) => b ≤ a

/-- Whether the entry is the last written of those with its value. -/
def isLatest (lexicon : Lexicon) (e : Entry) : Bool :=
  lexicon.entries.all fun other => other.value ≠ e.value || other.rank ≤ e.rank

/-- What each entry replaces in a direction, empty words included. In reverse, only the last
written of the words with one counterpart replaces it. -/
def replacements (lexicon : Lexicon) : Direction → List Pattern
  | .forward => lexicon.entries.toList.map fun e => ⟨e.key, e.value⟩
  | .reverse => (lexicon.entries.toList.filter lexicon.isLatest).map fun e => ⟨e.value, e.key⟩

/-- The replacements of a direction, the longest word first. Nothing replaces the empty word. -/
def patterns (lexicon : Lexicon) (direction : Direction) : List Pattern :=
  stableSort (fun a b => b.word.length ≤ a.word.length)
    ((lexicon.replacements direction).filter fun p => p.word ≠ [])

/-- Lexicons are the same if they have the same entries of the same ranks, and give the next write
the same rank. -/
instance : BEq Lexicon where
  beq a b :=
    a.entries == b.entries && a.index.toList == b.index.toList && a.nextRank == b.nextRank

end Lexicon

end Wordbridge
