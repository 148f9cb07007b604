import Upkeep.Text.CategoryTable

/-!
# Classes of characters

What is a letter, a digit and a character of a word, by the Unicode categories.  Characters of words
are the alphabetic ones, marks, decimal digits, connecting punctuation and the two joiners.
-/

namespace Upkeep.Text

open CategoryTable

/-! ## tables put together -/

def casedLetter : Intervals := uppercaseLetter ++ lowercaseLetter ++ titlecaseLetter

def letter : Intervals := casedLetter ++ modifierLetter ++ otherLetter

def mark : Intervals := nonspacingMark ++ spacingMark ++ enclosingMark

def number : Intervals := decimalNumber ++ letterNumber ++ otherNumber

def punctuation : Intervals :=
  connectorPunctuation ++ dashPunctuation ++ openPunctuation ++ closePunctuation ++
    initialPunctuation ++ finalPunctuation ++ otherPunctuation

def symbol : Intervals := mathSymbol ++ currencySymbol ++ modifierSymbol ++ otherSymbol

def separator : Intervals := spaceSeparator ++ lineSeparator ++ paragraphSeparator

def alphabetic : Intervals := letter ++ letterNumber ++ otherAlphabetic

def joinControl : Intervals := [(0x200C, 0x200D)]

def wordCharacter : Intervals :=
  alphabetic ++ mark ++ decimalNumber ++ connectorPunctuation ++ joinControl

def whiteSpace : Intervals := [(9, 0xD), (0x20, 0x20), (0x85, 0x85), (0xA0, 0xA0),
  (0x1680, 0x1680), (0x2000, 0x200A), (0x2028, 0x2029), (0x202F, 0x202F), (0x205F, 0x205F),
  (0x3000, 0x3000)]

/-! ## ASCII -/

def asciiDigit : Intervals := [(0x30, 0x39)]

def asciiWord : Intervals := [(0x30, 0x39), (0x41, 0x5A), (0x5F, 0x5F), (0x61, 0x7A)]

def asciiSpace : Intervals := [(9, 0xD), (0x20, 0x20)]

/-! ## questions about a character -/

def isWordChar (c : Char) : Bool :=
  if c.toNat < 0x80 then inRanges asciiWord c.toNat else inRanges wordCharacter c.toNat

def isAsciiWordChar (c : Char) : Bool := inRanges asciiWord c.toNat

def isAlphabetic (c : Char) : Bool := inRanges alphabetic c.toNat

def isAlphanumeric (c : Char) : Bool := isAlphabetic c || inRanges number c.toNat

end Upkeep.Text
