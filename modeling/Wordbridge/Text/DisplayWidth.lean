import Wordbridge.Text.WidthTable

/-!
# Display width

The number of columns that a text takes on a terminal. Most characters take
one column, wide ones two, and those written onto their neighbours none. Some
sequences take another width than their characters do apart: a line break of
two characters, emoji that a selector or a joiner changes, and the ligatures
of a few scripts. So the width is summed from the end, and each character is
weighed together with what stands behind it (`Ahead`).
-/

namespace Wordbridge.Text

/-- What the text ahead begins with, as far as the width of a character before it depends on it.
A ligature whose halves a joiner must hold together carries whether the joiner is there. -/
inductive Ahead where
  | other
  | lineFeed
  /-- An emoji shown as a picture. -/
  | picture
  /-- A joiner and such an emoji. -/
  | joinedPicture
  /-- The frame of a keycap, then a joiner and an emoji. -/
  | joinedKeycap
  | tone
  /-- One of the letters that make flags. -/
  | flagLetter
  /-- Two or more such letters. -/
  | flagLetters
  /-- One such letter, then a joiner and an emoji. -/
  | joinedFlagLetter
  /-- Pairs of such letters, then a joiner and an emoji. -/
  | joinedFlags
  /-- Such pairs and one letter more. -/
  | joinedFlagsAndLetter
  | arabicAlef
  | hebrewLamed (joined : Bool)
  | khmerSubscript
  | bugineseYa (joined : Bool)
  | bugineseVowelYa
  | tifinaghConsonant (joined : Bool)
  | tifinaghJoined
  | lisuTone
  | turkicOrkhonI (joined : Bool)
  | kiratVowelE
  | kiratVowelAi
  deriving DecidableEq, Repr

inductive Selector where
  | picture
  | glyph
  | fullWidth
  deriving DecidableEq, Repr

/-- The context of a character: what the text ahead begins with, and the selector in front of
that, if there is one. -/
structure WidthContext where
  ahead : Ahead := .other
  selector : Option Selector := none
  deriving DecidableEq, Repr

/-- The emoji that a selector can turn from a picture into a glyph. -/
def optionalGlyphs : CharSet :=
  [(0x231A, 0x231B), (0x23E9, 0x23EC), (0x23F0, 0x23F0), (0x23F3, 0x23F3), (0x25FD, 0x25FE),
    (0x2614, 0x2615), (0x2648, 0x2653), (0x267F, 0x267F), (0x2693, 0x2693), (0x26A1, 0x26A1),
    (0x26AA, 0x26AB), (0x26BD, 0x26BE), (0x26C4, 0x26C5), (0x26CE, 0x26CE), (0x26D4, 0x26D4),
    (0x26EA, 0x26EA), (0x26F2, 0x26F3), (0x26F5, 0x26F5), (0x26FA, 0x26FA), (0x26FD, 0x26FD),
    (0x2705, 0x2705), (0x270A, 0x270B), (0x2728, 0x2728), (0x274C, 0x274C), (0x274E, 0x274E),
    (0x2753, 0x2755), (0x2757, 0x2757), (0x2795, 0x2797), (0x27B0, 0x27B0), (0x27BF, 0x27BF),
    (0x2B1B, 0x2B1C), (0x2B50, 0x2B50), (0x2B55, 0x2B55), (0x1F004, 0x1F004), (0x1F30D, 0x1F30F),
    (0x1F315, 0x1F315), (0x1F31C, 0x1F31C), (0x1F378, 0x1F378), (0x1F393, 0x1F393),
    (0x1F3A7, 0x1F3A7), (0x1F3AC, 0x1F3AE), (0x1F3C2, 0x1F3C2), (0x1F3C4, 0x1F3C4),
    (0x1F3C6, 0x1F3C6), (0x1F3CA, 0x1F3CA), (0x1F3E0, 0x1F3E0), (0x1F3ED, 0x1F3ED),
    (0x1F408, 0x1F408), (0x1F415, 0x1F415), (0x1F41F, 0x1F41F), (0x1F426, 0x1F426),
    (0x1F442, 0x1F442), (0x1F446, 0x1F449), (0x1F44D, 0x1F44E), (0x1F453, 0x1F453),
    (0x1F46A, 0x1F46A), (0x1F47D, 0x1F47D), (0x1F4A3, 0x1F4A3), (0x1F4B0, 0x1F4B0),
    (0x1F4B3, 0x1F4B3), (0x1F4BB, 0x1F4BB), (0x1F4BF, 0x1F4BF), (0x1F4CB, 0x1F4CB),
    (0x1F4DA, 0x1F4DA), (0x1F4DF, 0x1F4DF), (0x1F4E4, 0x1F4E6), (0x1F4EA, 0x1F4ED),
    (0x1F4F7, 0x1F4F7), (0x1F4F9, 0x1F4FB), (0x1F508, 0x1F508), (0x1F50D, 0x1F50D),
    (0x1F512, 0x1F513), (0x1F550, 0x1F567), (0x1F610, 0x1F610), (0x1F687, 0x1F687),
    (0x1F68D, 0x1F68D), (0x1F691, 0x1F691), (0x1F694, 0x1F694), (0x1F698, 0x1F698),
    (0x1F6AD, 0x1F6AD), (0x1F6B2, 0x1F6B2), (0x1F6B9, 0x1F6BA), (0x1F6BC, 0x1F6BC)]

def arabicLams : CharSet :=
  [(0x644, 0x644), (0x6B5, 0x6B8), (0x76A, 0x76A), (0x8A6, 0x8A6), (0x8C7, 0x8C7)]

def arabicAlefs : CharSet :=
  [(0x622, 0x623), (0x625, 0x625), (0x627, 0x627), (0x671, 0x673), (0x675, 0x675),
    (0x773, 0x774), (0x870, 0x882)]

/-- The zero-width characters that keep Arabic letters from joining. -/
def joinBreakers : CharSet :=
  [(0x605, 0x605), (0x890, 0x891), (0x8E2, 0x8E2), (0x180E, 0x180E), (0x200C, 0x200D),
    (0x2066, 0x2069)]

def khmerSubscripts : CharSet :=
  [(0x1780, 0x1782), (0x1784, 0x1787), (0x1789, 0x178C), (0x178E, 0x1793), (0x1795, 0x1798),
    (0x179B, 0x179D), (0x17A0, 0x17A0), (0x17A2, 0x17A2), (0x17A7, 0x17A7), (0x17AB, 0x17AC),
    (0x17AF, 0x17AF)]

def tifinaghConsonants : CharSet :=
  [(0x2D31, 0x2D65), (0x2D6F, 0x2D6F)]

def flagLetters : CharSet :=
  [(0x1F1E6, 0x1F1FF)]

def skinTones : CharSet :=
  [(0x1F3FB, 0x1F3FF)]

def optionalWideMarks : CharSet :=
  [(0x2018, 0x2019), (0x201C, 0x201D)]

/-- Whether marks and joiners between the halves of the ligature leave it whole. -/
def Ahead.seesThroughMarks : Ahead → Bool
  | .hebrewLamed _ | .khmerSubscript | .bugineseYa _ | .bugineseVowelYa | .tifinaghConsonant _
  | .tifinaghJoined | .lisuTone | .turkicOrkhonI _ | .kiratVowelE | .kiratVowelAi => true
  | _ => false

/-- Whether a selector in front leaves what is ahead in reach of the character before it. -/
def Ahead.seesThroughSelector (ahead : Ahead) : Bool :=
  ahead.seesThroughMarks || ahead == .joinedPicture || ahead == .joinedKeycap

def Ahead.join : Ahead → Ahead
  | .hebrewLamed _ => .hebrewLamed true
  | .bugineseYa _ => .bugineseYa true
  | .tifinaghConsonant _ => .tifinaghConsonant true
  | .turkicOrkhonI _ => .turkicOrkhonI true
  | ahead => ahead

/-- The width of a character by itself, and what it is to the character before it. -/
def aloneWidth (c : Char) : Int × WidthContext :=
  if c = '\uFE0F' then (0, ⟨.other, some .picture⟩)
  else if c = '\uFE0E' then (0, ⟨.other, some .glyph⟩)
  else if c = '\uFE01' then (0, ⟨.other, some .fullWidth⟩)
  else if c = '\u05DC' then (1, ⟨.hebrewLamed false, none⟩)
  else if arabicAlefs.contains c then (1, ⟨.arabicAlef, none⟩)
  else if khmerSubscripts.contains c then (1, ⟨.khmerSubscript, none⟩)
  else if c = '\u17A4' then (2, {})
  else if c = '\u17D8' then (3, {})
  else if c = '\u1A10' then (1, ⟨.bugineseYa false, none⟩)
  else if tifinaghConsonants.contains c then (1, ⟨.tifinaghConsonant false, none⟩)
  else if c = '\uA4FC' || c = '\uA4FD' then (1, ⟨.lisuTone, none⟩)
  else if c = Char.ofNat 0x10C03 then (1, ⟨.turkicOrkhonI false, none⟩)
  else if c = Char.ofNat 0x16D67 then (1, ⟨.kiratVowelE, none⟩)
  else if c = Char.ofNat 0x16D68 then (1, ⟨.kiratVowelAi, none⟩)
  else if flagLetters.contains c then (1, ⟨.flagLetter, none⟩)
  else if skinTones.contains c then (2, ⟨.tone, none⟩)
  else if pictures.contains c then (2, ⟨.picture, none⟩)
  else if zeroWidth.contains c then (0, {})
  else if wide.contains c then (2, {})
  else (1, {})

/-- The width that a character adds as part of a sequence with what is ahead, if they make one. -/
def sequenceWidth? (c : Char) : Ahead → Option (Int × Ahead)
  | .arabicAlef =>
    if arabicLams.contains c then some (0, .other)
    else if zeroWidth.contains c && !joinBreakers.contains c then some (0, .arabicAlef)
    else none
  | .hebrewLamed true => if c = '\u05D0' then some (0, .other) else none
  | .khmerSubscript => if c = '\u17D2' then some (-1, .other) else none
  | .bugineseYa true => if c = '\u1A17' then some (0, .bugineseVowelYa) else none
  | .bugineseVowelYa => if c = '\u1A15' then some (0, .other) else none
  | .tifinaghConsonant joined =>
    if c = '\u2D7F' then some (1, .tifinaghJoined)
    else if joined && tifinaghConsonants.contains c then some (0, .other)
    else none
  | .tifinaghJoined => if tifinaghConsonants.contains c then some (-1, .other) else none
  | .lisuTone => if '\uA4F8' ≤ c && c ≤ '\uA4FB' then some (0, .other) else none
  | .turkicOrkhonI true => if c = Char.ofNat 0x10C32 then some (0, .other) else none
  | .kiratVowelE =>
    if c = Char.ofNat 0x16D63 then some (0, .other)
    else if c = Char.ofNat 0x16D67 then some (0, .kiratVowelE)
    else if c = Char.ofNat 0x16D68 then some (1, .kiratVowelE)
    else if c = Char.ofNat 0x16D69 then some (0, .other)
    else none
  | .kiratVowelAi => if c = Char.ofNat 0x16D63 then some (0, .other) else none
  | .tone =>
    if modifierBases.contains c then some (0, .picture)
    else if c = '\u200D' then some (0, .joinedPicture)
    else none
  | .flagLetter => if flagLetters.contains c then some (1, .flagLetters) else none
  | .flagLetters =>
    if flagLetters.contains c then some (1, .flagLetters)
    else if c = '\u200D' then some (0, .joinedPicture)
    else none
  | .picture => if c = '\u200D' then some (0, .joinedPicture) else none
  | .joinedPicture =>
    if c = '\u20E3' then some (0, .joinedKeycap)
    else if flagLetters.contains c then some (1, .joinedFlagLetter)
    else if skinTones.contains c then some (0, .tone)
    else if pictures.contains c then some (0, .picture)
    else none
  | .joinedFlagLetter => if flagLetters.contains c then some (-1, .joinedFlags) else none
  | .joinedFlags =>
    if flagLetters.contains c then some (3, .joinedFlagsAndLetter)
    else if c = '\u200D' then some (0, .joinedPicture)
    else none
  | .joinedFlagsAndLetter =>
    if flagLetters.contains c then some (-1, .joinedFlags)
    else if c = '\u200D' then some (0, .joinedPicture)
    else none
  | _ => none

/-- The width that a character beyond U+00A0 adds in front of `ahead`, which no selector parts from
it. -/
def widthBefore (c : Char) (ahead : Ahead) : Int × WidthContext :=
  if ahead.seesThroughMarks && c = '\u200D' then (0, ⟨ahead.join, none⟩)
  else if ahead.seesThroughMarks && zeroWidth.contains c then (0, ⟨ahead, none⟩)
  else
    match sequenceWidth? c ahead with
    | some (width, ahead) => (width, ⟨ahead, none⟩)
    | none => aloneWidth c

/-- The width that a character adds in its context, and its context to the character before it. -/
def charWidth (c : Char) (context : WidthContext) : Int × WidthContext :=
  if context.selector = some .picture && (optionalPictures.contains c || optionalGlyphs.contains c)
  then
    let joined := context.ahead == .joinedPicture || context.ahead == .joinedKeycap
    (if joined then 0 else 2, ⟨.picture, none⟩)
  else if c ≤ '\u00A0' then
    if c = '\n' then (1, ⟨.lineFeed, none⟩)
    else if c = '\r' && context == ⟨.lineFeed, none⟩ then (0, {})
    else (1, {})
  else if c = '\uFE0F' || c = '\uFE0E' then
    let selector := if c = '\uFE0F' then Selector.picture else Selector.glyph
    (0, ⟨if context.ahead.seesThroughSelector then context.ahead else .other, some selector⟩)
  else if context.selector = some .glyph && optionalGlyphs.contains c then (1, {})
  else if context.selector = some .fullWidth && optionalWideMarks.contains c then (2, {})
  else widthBefore c context.ahead

def displayWidth (text : Text) : Nat :=
  let (width, _) := text.foldr
    (fun c (width, context) =>
      let (more, context) := charWidth c context
      (width + more, context))
    ((0 : Int), ({} : WidthContext))
  width.toNat

end Wordbridge.Text
