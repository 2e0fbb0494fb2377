import Wordbridge.Text
import Wordbridge.Text.CharSet
import Wordbridge.Text.Blank
import Wordbridge.Text.LowerCase
import Wordbridge.Text.Quoted
import Wordbridge.Text.DisplayWidth
import Wordbridge.Charset.Utf8
import Wordbridge.Charset.Utf16
import Wordbridge.Charset
import Wordbridge.Region
import Wordbridge.Direction
import Wordbridge.StableSort
import Wordbridge.Lexicon
import Wordbridge.Substitution
import Wordbridge.WordDirective
import Wordbridge.Romanization
import Wordbridge.Transliteration
import Wordbridge.Toml.Shape
import Wordbridge.NameTable
import Wordbridge.Romanization.Document
import Wordbridge.Settings
import Wordbridge.FileTree
import Wordbridge.Compilation
import Wordbridge.Session
import Wordbridge.Report
import Wordbridge.CommandLine.Run
import Wordbridge.Main
import Wordbridge.Proofs.Lexicon.Representation
import Wordbridge.Proofs.Lexicon.History
import Wordbridge.Proofs.Lexicon.Index
import Wordbridge.Proofs.Matcher
import Wordbridge.Proofs.Region
import Wordbridge.Proofs.Scan
import Wordbridge.Proofs.Meaning
import Wordbridge.Proofs.Session
import Wordbridge.Proofs.RoundTrip
import Wordbridge.Proofs.WordDirective
import Wordbridge.Proofs.Layering
import Wordbridge.Proofs.Compilation
import Wordbridge.Proofs.FileTree
import Wordbridge.Proofs.FileAccess
import Wordbridge.Proofs.CommandLine
import Wordbridge.Proofs.Charset.Utf16
import Wordbridge.Proofs.Charset
import Wordbridge.Proofs.Boundary
import Wordbridge.Proofs.WordDirective.Residue
import Wordbridge.Proofs.Lexicon.Sorting
import Wordbridge.Proofs.WordDirective.Lines
import Wordbridge.Proofs.Division
import Wordbridge.Proofs.WordDirective.Search
import Wordbridge.Proofs.Lexicon.Merging
import Wordbridge.Proofs.ByteOrder
import Wordbridge.Proofs.NameTable
import Wordbridge.Proofs.Unused
import Wordbridge.Proofs.Romanization
import Wordbridge.Proofs.Romanization.Document
import Wordbridge.Proofs.Text.LowerCase
import Wordbridge.Proofs.Romanization.Stability
import Wordbridge.Proofs.Romanization.Composition
import Wordbridge.Proofs.CommandLine.Installation
import Wordbridge.Proofs.Compilation.Outcome
import Wordbridge.Proofs.Matcher.Buckets
import Wordbridge.Proofs.Scan.Offset
