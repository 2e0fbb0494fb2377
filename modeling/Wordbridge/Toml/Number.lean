import Wordbridge.Toml.Moment

/-!
# TOML numbers

Integers of 64 bits, in decimal or with a base prefix, and floats. Single
underscores may stand between digits. A float that is too large for a double
is refused, unless it is negative.
-/

namespace Wordbridge.Toml

/-- The digits of a number without the underscores between them. -/
def plainDigits? (isDigit : Char → Bool) (text : Text) : Option Text :=
  let parts := text.splitOn '_'
  if parts.all fun part => part ≠ [] && part.all isDigit then some parts.flatten else none

def splitSign : Text → Bool × Text
  | '-' :: text => (true, text)
  | '+' :: text => (false, text)
  | text => (false, text)

/-- The digits of a decimal number without sign; only zero itself starts with a zero. -/
def decimalDigits? (text : Text) : Option Text :=
  match text with
  | '0' :: _ :: _ => none
  | text => plainDigits? Char.isDigit text

def isHexDigit (c : Char) : Bool :=
  c.isDigit || ('a' ≤ c && c ≤ 'f') || ('A' ≤ c && c ≤ 'F')

def digitValue (c : Char) : Nat :=
  if c.isDigit then c.toNat - '0'.toNat
  else if 'a' ≤ c then c.toNat - 'a'.toNat + 10
  else c.toNat - 'A'.toNat + 10

def numeral (base : Nat) (digits : Text) : Nat :=
  digits.foldl (fun n d => base * n + digitValue d) 0

def integerLimit : Nat := 0x8000000000000000

/-- A number with a base prefix, which has no sign. -/
def basedInteger? (base : Nat) (isDigit : Char → Bool) (text : Text) : Option Int := do
  let digits ← plainDigits? isDigit text
  let n := numeral base digits
  if n < integerLimit then return n else none

def integer? (text : Text) : Option Int :=
  match text with
  | '0' :: 'x' :: text => basedInteger? 16 isHexDigit text
  | '0' :: 'o' :: text => basedInteger? 8 (fun c => '0' ≤ c && c ≤ '7') text
  | '0' :: 'b' :: text => basedInteger? 2 (fun c => c = '0' || c = '1') text
  | text => do
    let (negative, text) := splitSign text
    let n := decimal (← decimalDigits? text)
    if negative then if n ≤ integerLimit then return -n else none
    else if n < integerLimit then return n else none

/-- Whether `m * 10 ^ e` rounds to a number beyond the doubles: it is no nearer to the largest
double than to the next power of two. -/
def overflows (m : Nat) (e : Int) : Bool :=
  let bound := Nat.pow 2 1024 - Nat.pow 2 970
  let digits := (Nat.toDigits 10 m).length
  if m = 0 || digits + e < 300 then false
  else if 400 < digits + e then true
  else if 0 ≤ e then bound ≤ m * Nat.pow 10 e.toNat
  else bound * Nat.pow 10 (-e).toNat ≤ m

def exponent? (text : Text) : Option Int := do
  let (negative, text) := splitSign text
  let n := decimal (← plainDigits? Char.isDigit text)
  return if negative then -n else n

/-- The part before the first character that `stops`, and that character with the part behind it. -/
def splitBefore (stops : Char → Bool) (text : Text) : Text × Text :=
  (text.takeWhile fun c => !stops c, text.dropWhile fun c => !stops c)

/-- Whether the whole text is a float with a fraction or an exponent. -/
def isDecimalFloat (text : Text) : Bool :=
  let (negative, unsigned) := splitSign text
  let (mantissa, power) := splitBefore (fun c => c = 'e' || c = 'E') unsigned
  let (whole, part) := splitBefore (· = '.') mantissa
  if power = [] && part = [] then false
  else
    let parts : Option (Text × Text × Int) := do
      let whole ← decimalDigits? whole
      let part ← if part = [] then some [] else plainDigits? Char.isDigit (part.drop 1)
      let power ← if power = [] then some 0 else exponent? (power.drop 1)
      return (whole, part, power)
    match parts with
    | none => false
    | some (whole, part, power) =>
      negative || !overflows (decimal (whole ++ part)) (power - part.length)

def isFloat (text : Text) : Bool :=
  let (_, unsigned) := splitSign text
  unsigned = "inf".toList || unsigned = "nan".toList || isDecimalFloat text

end Wordbridge.Toml
