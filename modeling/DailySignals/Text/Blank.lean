import DailySignals.Text.Ranges

/-!
# Blanks

Characters with the Unicode property White_Space, and the texts that are left
when they are taken off the ends.
-/

set_option autoImplicit false

namespace DailySignals

namespace Text

def blankRanges : List (Nat × Nat) :=
  [(0x9, 0xD), (0x20, 0x20), (0x85, 0x85), (0xA0, 0xA0), (0x1680, 0x1680),
    (0x2000, 0x200A), (0x2028, 0x2029), (0x202F, 0x202F), (0x205F, 0x205F),
    (0x3000, 0x3000)]

def isBlank (c : Char) : Bool :=
  inRanges blankRanges c

/-- A text without the blanks it starts with. -/
def skipBlanks (text : List Char) : List Char :=
  text.dropWhile isBlank

/-- A text without the blanks it ends with. -/
def dropBlanksAtEnd (text : List Char) : List Char :=
  (text.reverse.dropWhile isBlank).reverse

def trimChars (text : List Char) : List Char :=
  dropBlanksAtEnd (skipBlanks text)

/-- A text without the blanks at either end. -/
def trim (text : String) : String :=
  String.ofList (trimChars text.toList)

/-- Whether a text has nothing but blanks. -/
def isAllBlank (text : String) : Bool :=
  text.toList.all isBlank

end Text

end DailySignals
