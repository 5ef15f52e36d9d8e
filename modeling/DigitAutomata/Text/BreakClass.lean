import DigitAutomata.Text.Conjunct
import DigitAutomata.Text.GraphemeExtend
import DigitAutomata.Text.Pictograph
import DigitAutomata.Text.SpacingMark

/-! What a character does to the boundaries of grapheme clusters beside it: the classes of Unicode's
property Grapheme_Cluster_Break, with one class each for pictographs and for the consonants that form
conjuncts. -/
namespace DigitAutomata.Text

inductive BreakClass where
  | carriageReturn | lineFeed | control
  | extend | joiner | spacingMark | prepend
  | leading | vowel | trailing | openSyllable | closedSyllable
  | regional | pictograph | consonant | other
  deriving DecidableEq

/-- Controls, format characters and unassigned ones that are left out of a display. -/
def controlRanges : Ranges := [
  (0x0, 0x1f), (0x7f, 0x9f), (0xad, 0xad), (0x61c, 0x61c), (0x180e, 0x180e),
  (0x200b, 0x200b), (0x200e, 0x200f), (0x2028, 0x202e), (0x2060, 0x206f), (0xfeff, 0xfeff),
  (0xfff0, 0xfffb), (0x13430, 0x1343f), (0x1bca0, 0x1bca3), (0x1d173, 0x1d17a), (0xe0000, 0xe001f),
  (0xe0080, 0xe00ff), (0xe01f0, 0xe0fff)]

/-- Signs that are drawn over or in front of the character after them. -/
def prependRanges : Ranges := [
  (0x600, 0x605), (0x6dd, 0x6dd), (0x70f, 0x70f), (0x890, 0x891), (0x8e2, 0x8e2),
  (0xd4e, 0xd4e), (0x110bd, 0x110bd), (0x110cd, 0x110cd), (0x111c2, 0x111c3), (0x113d1, 0x113d1),
  (0x1193f, 0x1193f), (0x11941, 0x11941), (0x11a84, 0x11a89), (0x11d46, 0x11d46), (0x11f02, 0x11f02)]

/-- Marks of class `extend` beyond Grapheme_Extend: skin tones and the halfwidth sound marks. -/
def attachedRanges : Ranges := [(0xff9e, 0xff9f), (0x1f3fb, 0x1f3ff)]

def leadingRanges : Ranges := [(0x1100, 0x115f), (0xa960, 0xa97c)]

def vowelRanges : Ranges := [
  (0x1160, 0x11a7), (0xd7b0, 0xd7c6), (0x16d63, 0x16d63), (0x16d67, 0x16d6a)]

def trailingRanges : Ranges := [(0x11a8, 0x11ff), (0xd7cb, 0xd7fb)]

def syllableRanges : Ranges := [(0xac00, 0xd7a3)]

def regionalRanges : Ranges := [(0x1f1e6, 0x1f1ff)]

namespace BreakClass

/-- A Hangul syllable block ends in a vowel once every 28. -/
def ofChar (c : Char) : BreakClass :=
  if c = '\r' then .carriageReturn
  else if c = '\n' then .lineFeed
  else if controlRanges.covers c then .control
  else if c = '\u200d' then .joiner
  else if isGraphemeExtend c || attachedRanges.covers c then .extend
  else if isSpacingMark c then .spacingMark
  else if prependRanges.covers c then .prepend
  else if leadingRanges.covers c then .leading
  else if vowelRanges.covers c then .vowel
  else if trailingRanges.covers c then .trailing
  else if syllableRanges.covers c then
    if (c.toNat - 0xac00) % 28 = 0 then .openSyllable else .closedSyllable
  else if regionalRanges.covers c then .regional
  else if isPictograph c then .pictograph
  else if isConsonant c then .consonant
  else .other

/-- There is a boundary on both sides, whatever stands there. -/
def isolates : BreakClass → Bool
  | .carriageReturn | .lineFeed | .control => true
  | _ => false

/-- The character belongs to the one before it. -/
def attaches : BreakClass → Bool
  | .extend | .joiner | .spacingMark => true
  | _ => false

/-- Two parts of one Hangul syllable. -/
def sameSyllable : BreakClass → BreakClass → Bool
  | .leading, .leading | .leading, .vowel | .leading, .openSyllable | .leading, .closedSyllable
  | .openSyllable, .vowel | .openSyllable, .trailing | .vowel, .vowel | .vowel, .trailing
  | .closedSyllable, .trailing | .trailing, .trailing => true
  | _, _ => false

end BreakClass

end DigitAutomata.Text
