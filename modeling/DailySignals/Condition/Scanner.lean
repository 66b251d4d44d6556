import DailySignals.Text.Alphanumeric
import DailySignals.Text.Blank
import DailySignals.Decimal.Reader

/-!
# Tokens of condition and rule texts

A step takes a token off the head of a text and hands on what is left, which is
always an end of the text it was given.  A refused step names what was expected
and the unread text at the place of the mistake, from which the position and
the offending word follow.
-/

set_option autoImplicit false

namespace DailySignals

/-- A text that cannot be read, and the place of the mistake in bytes. -/
structure SyntaxFault where
  message : String
  position : Nat
  deriving DecidableEq, Repr

namespace SyntaxFault

def text (fault : SyntaxFault) : String :=
  "parse error at position " ++ toString fault.position ++ ": " ++ fault.message

/-- The text, a caret below it at the fault's position, and the fault. -/
def withContext (fault : SyntaxFault) (input : String) : String :=
  input ++ "\n" ++ String.ofList (List.replicate fault.position ' ') ++ "^\n" ++ fault.text

end SyntaxFault

/-- What a text lacks where it cannot be read further. -/
inductive Expectation where
  | character (wanted : Char)
  | word (wanted : String)
  | number
  | readableNumber (digits : List Char)
  | endOfText
  | closedObject
  deriving DecidableEq, Repr

/-- A mistake, with the unread text at its place. -/
structure Refusal where
  expected : Expectation
  unread : List Char
  deriving DecidableEq, Repr

/-- Reading a value off the head of a text. -/
abbrev Step (β : Type) := List Char → Except Refusal (β × List Char)

namespace Scanner

/-- The word at the head of a text, else its first character. -/
def foundWord (text : List Char) : String :=
  match text.takeWhile Text.isNameChar, text with
  | [], [] => "end of input"
  | [], c :: _ => String.ofList [c]
  | word, _ => String.ofList word

end Scanner

namespace Refusal

def message (refusal : Refusal) : String :=
  match refusal.expected with
  | .character wanted =>
      let found := match refusal.unread with
        | [] => "end of input"
        | c :: _ => String.ofList ['\'', c, '\'']
      "expected '" ++ String.ofList [wanted] ++ "', found " ++ found
  | .word wanted =>
      "expected " ++ wanted ++ ", found '" ++ Scanner.foundWord refusal.unread ++ "'"
  | .number => "expected number"
  | .readableNumber digits => "invalid number: " ++ String.ofList digits
  | .endOfText =>
      "unexpected input after condition: '" ++ String.ofList refusal.unread ++ "'"
  | .closedObject => "unterminated params object"

/-- The bytes of a text. -/
def byteSize (text : List Char) : Nat :=
  text.foldr (fun c rest => c.utf8Size + rest) 0

/-- A mistake in `input`, placed by what was left unread of it. -/
def toFault (refusal : Refusal) (input : List Char) : SyntaxFault where
  message := refusal.message
  position := byteSize input - byteSize refusal.unread

end Refusal

namespace Scanner

open Text (skipBlanks isNameChar)

/-- One given character, blanks before it passed over. -/
def character (wanted : Char) : Step Unit := fun text =>
  match skipBlanks text with
  | c :: rest =>
      if c = wanted then .ok ((), rest) else .error ⟨.character wanted, c :: rest⟩
  | [] => .error ⟨.character wanted, []⟩

/-- The closing parenthesis, if it comes next. -/
def closing? (text : List Char) : Option (List Char) :=
  match skipBlanks text with
  | ')' :: rest => some rest
  | _ => none

/-- The end of the text, if only blanks are left. -/
def finished? (text : List Char) : Option (List Char) :=
  match skipBlanks text with
  | [] => some []
  | _ => none

/-- What follows `start` at the head of a text. -/
def dropStart? : (start text : List Char) → Option (List Char)
  | [], text => some text
  | wanted :: start, c :: text => if c = wanted then dropStart? start text else none
  | _ :: _, [] => none

/-- What follows a keyword; a longer name does not count as the keyword. -/
def keyword? (word : String) (text : List Char) : Option (List Char) :=
  match dropStart? word.toList text with
  | some (c :: rest) => if isNameChar c then none else some (c :: rest)
  | found => found

/-- A name: all letters, numbers and low lines that follow. -/
def identifier (what : String) : Step String := fun text =>
  let text := skipBlanks text
  match text.takeWhile isNameChar with
  | [] => .error ⟨.word what, text⟩
  | name => .ok (String.ofList name, text.dropWhile isNameChar)

/-- The characters of a bare value. -/
def isValueChar (c : Char) : Bool :=
  c != ',' && c != '(' && c != ')'

/-- A bare value: everything up to a comma or parenthesis, without the blanks
at its ends. -/
def value : Step String := fun text =>
  let text := skipBlanks text
  match Text.trimChars (text.takeWhile isValueChar) with
  | [] => .error ⟨.word "value", text⟩
  | value => .ok (String.ofList value, text.dropWhile isValueChar)

/-- Digits with at most one point, and the rest. -/
def spanDigitsPoint (text : List Char) : List Char × List Char :=
  let (whole, rest) := Decimal.spanDigits text
  match rest with
  | '.' :: afterPoint =>
      let (fraction, rest) := Decimal.spanDigits afterPoint
      (whole ++ '.' :: fraction, rest)
  | rest => (whole, rest)

/-- A sign and digits with at most one point, and the rest. -/
def spanNumber (text : List Char) : List Char × List Char :=
  match text with
  | '-' :: unsigned =>
      let (digits, rest) := spanDigitsPoint unsigned
      ('-' :: digits, rest)
  | unsigned => spanDigitsPoint unsigned

/-- A number without exponent: an optional minus sign and at least one digit.  There may be
any number of digits; a counter of 32 bits for them would overflow beyond 2 ^ 31 - 1. -/
def number : Step Decimal := fun text =>
  let text := skipBlanks text
  let (lexeme, rest) := spanNumber text
  if !lexeme.any Char.isDigit then .error ⟨.number, text⟩
  else
    let (negative, magnitude) := Decimal.spanSign lexeme
    match Decimal.readMagnitude? negative magnitude with
    | some decimal => .ok (decimal, rest)
    | none => .error ⟨.readableNumber lexeme, text⟩

/-- Where the scan of an object's text stands. -/
inductive Within where
  | object
  | string
  | escape
  deriving DecidableEq, Repr

/-- The text up to the brace that closes `depth` open objects, and the rest.
Braces inside strings do not count. -/
def objectText? : (depth : Nat) → Within → List Char → Option (List Char × List Char)
  | _, _, [] => none
  | depth, .escape, c :: rest => push c (objectText? depth .string rest)
  | depth, .string, c :: rest =>
      push c (objectText? depth
        (if c = '\\' then .escape else if c = '"' then .object else .string) rest)
  | depth, .object, c :: rest =>
      if c = '"' then push c (objectText? depth .string rest)
      else if c = '\x7b' then push c (objectText? (depth + 1) .object rest)
      else if c = '\x7d' then
        if depth ≤ 1 then some ([c], rest) else push c (objectText? (depth - 1) .object rest)
      else push c (objectText? depth .object rest)
where
  /-- Puts a character back in front of the text that was found. -/
  push (c : Char) (found : Option (List Char × List Char)) : Option (List Char × List Char) :=
    found.map fun (text, rest) => (c :: text, rest)

/-- The raw text of an object in braces. -/
def object : Step String := fun text =>
  match skipBlanks text with
  | '\x7b' :: rest =>
      match objectText? 0 .object ('\x7b' :: rest) with
      | some (object, rest) => .ok (String.ofList object, rest)
      | none => .error ⟨.closedObject, '\x7b' :: rest⟩
  | text => .error ⟨.word "'\x7b'", text⟩

end Scanner

end DailySignals
