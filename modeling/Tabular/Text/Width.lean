import Tabular.Text.Emoji
import Tabular.Text.Extend
import Tabular.Text.Wide

/-!
The number of terminal columns that a text occupies. Characters join with their neighbours
(pictures made of several code points, flags, ligatures), so the text is read from its end and each
character is measured in view of what stands after it.

Some characters have a column only as long as nothing joins them from the left. Such a column is not
counted when the character is read: `Ahead.held` keeps it back until the next character has decided
on it. So counting only ever adds.
-/

namespace Tabular.Text

/-- Letters that may join with the character before them. `joined` is set once a zero width joiner
stands between the two. -/
inductive Ligature where
  | alef
  | lamed (joined : Bool)
  | coengLetter
  | ya (joined : Bool)
  | vowelYa
  | consonant (joined : Bool)
  | consonantJoiner
  | lisuTone
  | oldTurkic (joined : Bool)
  deriving DecidableEq, Repr

/-- What stands right after the character being measured, as far as it can matter. -/
inductive Ahead where
  /-- nothing that joins -/
  | plain
  | lineFeed
  /-- an emoji modifier -/
  | modifier
  /-- one regional indicator -/
  | regional
  /-- several regional indicators -/
  | regionals
  /-- an emoji, alone or already joined with what follows it -/
  | emoji
  /-- a zero width joiner and an emoji, perhaps with a keycap or U+FE0F before them -/
  | joined (keycap selected : Bool)
  /-- one regional indicator in front of a joined emoji -/
  | joinedRegional
  /-- an even number of regional indicators in front of a joined emoji -/
  | joinedEven
  /-- an odd number above one of regional indicators in front of a joined emoji -/
  | joinedOdd
  /-- the letters of a tag sequence that ends in front of a joined emoji -/
  | tagLetters (count : Nat)
  /-- the digits of such a tag sequence -/
  | tagDigits (count : Nat)
  /-- U+FE0E -/
  | textSelector
  /-- U+FE0F -/
  | emojiSelector
  /-- a letter that may join, perhaps with U+FE0E or U+FE0F before it -/
  | ligature (letter : Ligature) (asText asEmoji : Bool)
  deriving DecidableEq, Repr

namespace Ahead

/-- The column that the characters read so far have only if the next one does not join them. -/
def held : Ahead → Nat
  | ligature .coengLetter _ _ => 1
  | ligature .consonantJoiner _ _ => 1
  | joinedRegional => 1
  | joinedOdd => 1
  | _ => 0

/-- U+FE0F stands next. -/
def wantsEmoji : Ahead → Bool
  | emojiSelector => true
  | joined _ selected => selected
  | ligature _ _ asEmoji => asEmoji
  | _ => false

/-- U+FE0E stands next. -/
def wantsText : Ahead → Bool
  | textSelector => true
  | ligature _ asText _ => asText
  | _ => false

/-- What U+FE0F leaves standing next. -/
def selectEmoji : Ahead → Ahead
  | joined keycap _ => joined keycap true
  | ligature letter asText _ => ligature letter asText true
  | _ => emojiSelector

/-- What U+FE0E leaves standing next. -/
def selectText : Ahead → Ahead
  | ligature letter _ asEmoji => ligature letter true asEmoji
  | _ => textSelector

/-- U+FE0F has found no emoji to select. -/
def dropEmoji : Ahead → Ahead
  | ligature letter asText _ => ligature letter asText false
  | _ => plain

/-- U+FE0E has found no emoji to show as text. -/
def dropText : Ahead → Ahead
  | ligature letter _ asEmoji => ligature letter false asEmoji
  | _ => plain

end Ahead

/-- U+200D, zero width joiner. -/
def isJoiner (c : Char) : Bool :=
  c.toNat == 0x200D

/-- One of the twenty-six letters whose pairs make flags. -/
def isRegional (c : Char) : Bool :=
  0x1F1E6 ≤ c.toNat && c.toNat ≤ 0x1F1FF

/-- A skin tone. -/
def isModifier (c : Char) : Bool :=
  0x1F3FB ≤ c.toNat && c.toNat ≤ 0x1F3FF

/-- A character that takes no column. The Tifinagh joiner U+2D7F extends the letter before it, but
has a column where it joins nothing. -/
def isInvisible (c : Char) : Bool :=
  (graphemeExtend.has c || invisible.has c) && c.toNat != 0x2D7F

/-- A character that U+FE0E turns into text one column wide. The ideographs on squares stay wide. -/
def hasTextForm (c : Char) : Bool :=
  emojiVariation.has c && emojiPresentation.has c && !(0x1F200 ≤ c.toNat && c.toNat ≤ 0x1F2FF)

/-- Arabic letters of the joining group alef. -/
def alefs : CodePoints := [
  (0x622, 0x623), (0x625, 0x625), (0x627, 0x627), (0x671, 0x673), (0x675, 0x675), (0x773, 0x774),
  (0x870, 0x882)]

/-- Arabic letters of the joining group lam. -/
def lams : CodePoints := [
  (0x644, 0x644), (0x6B5, 0x6B8), (0x76A, 0x76A), (0x8A6, 0x8A6), (0x8C7, 0x8C7)]

/-- Khmer letters that are written below the line after U+17D2. -/
def coengLetters : CodePoints := [
  (0x1780, 0x1782), (0x1784, 0x1787), (0x1789, 0x178C), (0x178E, 0x1793), (0x1795, 0x1798),
  (0x179B, 0x179D), (0x17A0, 0x17A0), (0x17A2, 0x17A2), (0x17A7, 0x17A7), (0x17AB, 0x17AC),
  (0x17AF, 0x17AF)]

/-- Tifinagh consonants. -/
def tifinaghConsonants : CodePoints := [(0x2D31, 0x2D65), (0x2D6F, 0x2D6F)]

/-- Code points beside the joiner that may stand inside a ligature of the scripts that use one. -/
def ligatureTransparent : CodePoints := [
  (0x34F, 0x34F), (0x17B4, 0x17B5), (0x180B, 0x180D), (0x180F, 0x180F), (0xFE00, 0xFE0F),
  (0xE0100, 0xE01EF)]

/-- The width of a character that joins with nothing after it, and what it is to the character
before it. -/
def alone (c : Char) : Nat × Ahead :=
  let n := c.toNat
  if n == 0xFE0E then (0, .textSelector)
  else if n == 0xFE0F then (0, .emojiSelector)
  else if n == 0x5DC then (1, .ligature (.lamed false) false false)
  else if alefs.has c then (1, .ligature .alef false false)
  else if coengLetters.has c then (0, .ligature .coengLetter false false)
  else if n == 0x17D8 then (3, .plain)
  else if n == 0x17A4 || n == 0x115F then (2, .plain)
  else if n == 0x1A10 then (1, .ligature (.ya false) false false)
  else if tifinaghConsonants.has c then (1, .ligature (.consonant false) false false)
  else if 0xA4FC ≤ n && n ≤ 0xA4FD then (1, .ligature .lisuTone false false)
  else if n == 0x10C03 then (1, .ligature (.oldTurkic false) false false)
  else if isRegional c then (1, .regional)
  else if isModifier c then (2, .modifier)
  else if emojiPresentation.has c then (2, .emoji)
  else if isInvisible c then (0, .plain)
  else if wide.has c then (2, .plain)
  else (1, .plain)

/-- How a character joins with a letter after it: the columns this settles, and what the two are to
the character before them. `none` where they do not join. -/
def joinLetter? (c : Char) (letter : Ligature) : Option (Nat × Ahead) :=
  let n := c.toNat
  let become (letter : Ligature) : Option (Nat × Ahead) := some (0, .ligature letter false false)
  match letter with
  | .alef =>
      if lams.has c then some (0, .plain)
      else if isInvisible c && !joinBreaking.has c then become .alef
      else none
  | letter =>
      if isJoiner c then
        match letter with
        | .lamed _ => become (.lamed true)
        | .ya _ => become (.ya true)
        | .consonant _ => become (.consonant true)
        | .oldTurkic _ => become (.oldTurkic true)
        | letter => become letter
      else if ligatureTransparent.has c then become letter
      else
        match letter with
        | .coengLetter => if n == 0x17D2 then some (0, .plain) else none
        | .lamed true => if n == 0x5D0 then some (0, .plain) else none
        | .ya true => if n == 0x1A17 then become .vowelYa else none
        | .vowelYa => if n == 0x1A15 then some (0, .plain) else none
        | .consonant joined =>
            if n == 0x2D7F then become .consonantJoiner
            else if joined && tifinaghConsonants.has c then some (0, .plain)
            else none
        | .consonantJoiner => if tifinaghConsonants.has c then some (0, .plain) else none
        | .lisuTone => if 0xA4F8 ≤ n && n ≤ 0xA4FB then some (0, .plain) else none
        | .oldTurkic true => if n == 0x10C32 then some (0, .plain) else none
        | _ => none

/-- How a character joins with an emoji, a flag or a tag sequence after it. -/
def joinEmoji? (c : Char) (ahead : Ahead) : Option (Nat × Ahead) :=
  let n := c.toNat
  match ahead with
  | .modifier =>
      if modifierBase.has c then some (0, .emoji)
      else if isJoiner c then some (0, .joined false false)
      else none
  | .regional => if isRegional c then some (1, .regionals) else none
  | .regionals =>
      if isRegional c then some (1, .regionals)
      else if isJoiner c then some (0, .joined false false)
      else none
  | .emoji => if isJoiner c then some (0, .joined false false) else none
  | .joined false _ =>
      if n == 0x20E3 then some (0, .joined true false)
      else if isRegional c then some (0, .joinedRegional)
      else if isModifier c then some (0, .modifier)
      else if n == 0xE007F then some (0, .tagLetters 0)
      else if emojiPresentation.has c then some (0, .emoji)
      else none
  | .joinedRegional => if isRegional c then some (0, .joinedEven) else none
  | .joinedEven =>
      if isRegional c then some (2, .joinedOdd)
      else if isJoiner c then some (0, .joined false false)
      else none
  | .joinedOdd =>
      if isRegional c then some (0, .joinedEven)
      else if isJoiner c then some (1, .joined false false)
      else none
  | .tagLetters count =>
      if 0xE0061 ≤ n && n ≤ 0xE007A && count ≤ 5 then some (0, .tagLetters (count + 1))
      else if 0xE0030 ≤ n && n ≤ 0xE0039 && count ≤ 4 then some (0, .tagDigits 1)
      else if n == 0x1F3F4 && 3 ≤ count then some (0, .emoji)
      else none
  | .tagDigits count =>
      if 0xE0030 ≤ n && n ≤ 0xE0039 && count ≤ 2 then some (0, .tagDigits (count + 1))
      else if n == 0x1F3F4 && count == 3 then some (0, .emoji)
      else none
  | _ => none

/-- How a character above U+00A0 joins with what stands after it, selectors apart. -/
def join? (c : Char) : Ahead → Option (Nat × Ahead)
  | .ligature letter _ _ => joinLetter? c letter
  | ahead => joinEmoji? c ahead

/-- A character that joins with nothing settles what was held back and counts for itself. -/
def settle (ahead : Ahead) (own : Nat × Ahead) : Nat × Ahead :=
  (ahead.held + own.1, own.2)

/-- Measure one character above U+00A0 in front of what no emoji selector belongs to. -/
def stepWide (c : Char) (ahead : Ahead) : Nat × Ahead :=
  if ahead = .plain then alone c
  else if c.toNat == 0xFE0F then (ahead.held - ahead.selectEmoji.held, ahead.selectEmoji)
  else if c.toNat == 0xFE0E then (ahead.held - ahead.selectText.held, ahead.selectText)
  else if ahead.wantsText && hasTextForm c then (ahead.held + 1, .plain)
  else
    let ahead := if ahead.wantsText then ahead.dropText else ahead
    (join? c ahead).getD (settle ahead (alone c))

/-- Measure one character: the columns that are settled by it, and what it is to the character
before it. -/
def step (c : Char) (ahead : Ahead) : Nat × Ahead :=
  if ahead.wantsEmoji && emojiVariation.has c then
    (ahead.held + (match ahead with | .joined _ _ => 0 | _ => 2), .emoji)
  else
    let ahead := if ahead.wantsEmoji then ahead.dropEmoji else ahead
    if c.toNat ≤ 0xA0 then
      if c = '\n' then (ahead.held, .lineFeed)
      else if c = '\r' && ahead = .lineFeed then (0, .plain)
      else (ahead.held + 1, .plain)
    else stepWide c ahead

/-- Read a text from its end: the columns settled, and what its first character is to one before. -/
def measure : List Char → Nat × Ahead
  | [] => (0, .plain)
  | c :: rest =>
      let after := measure rest
      let here := step c after.2
      (after.1 + here.1, here.2)

/-- The number of columns that the characters occupy. -/
def columns (cs : List Char) : Nat :=
  (measure cs).1 + (measure cs).2.held

/-- The number of columns that a text occupies. -/
def width (text : String) : Nat :=
  columns text.toList

end Tabular.Text
