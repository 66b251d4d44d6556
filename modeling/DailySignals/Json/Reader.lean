import DailySignals.Json.Value
import DailySignals.Decimal.Reader

/-!
# Reading JSON

The strict grammar: four kinds of blanks, no trailing commas, no leading zeros,
no control characters in strings, and nothing after the value.
-/

set_option autoImplicit false

namespace DailySignals

namespace Json

def isSpace (c : Char) : Bool :=
  c = ' ' || c = '\t' || c = '\n' || c = '\r'

def skipSpace (text : List Char) : List Char :=
  text.dropWhile isSpace

/-- A piece of a string: a character, or the code unit of a hexadecimal escape. -/
inductive Piece where
  | plain (c : Char)
  | unit (code : Nat)
  deriving DecidableEq, Repr

def hexValue? (c : Char) : Option Nat :=
  if c.isDigit then some (c.toNat - '0'.toNat)
  else if 'a' ≤ c ∧ c ≤ 'f' then some (c.toNat - 'a'.toNat + 10)
  else if 'A' ≤ c ∧ c ≤ 'F' then some (c.toNat - 'A'.toNat + 10)
  else none

/-- The characters that one letter behind a backslash stands for. -/
def escaped? : Char → Option Char
  | '"' => some '"'
  | '\\' => some '\\'
  | '/' => some '/'
  | 'b' => some '\x08'
  | 'f' => some '\x0c'
  | 'n' => some '\n'
  | 'r' => some '\r'
  | 't' => some '\t'
  | _ => none

def unitOf? (digits : List Char) : Option Nat :=
  digits.foldlM (fun code digit => (hexValue? digit).map (code * 16 + ·)) 0

/-- The pieces of a string up to its closing quote, and the rest. -/
def stringPieces? : List Char → Option (List Piece × List Char)
  | [] => none
  | '"' :: rest => some ([], rest)
  | '\\' :: 'u' :: a :: b :: c :: d :: rest => do
      let code ← unitOf? [a, b, c, d]
      let (pieces, rest) ← stringPieces? rest
      return (.unit code :: pieces, rest)
  | '\\' :: letter :: rest => do
      let c ← escaped? letter
      let (pieces, rest) ← stringPieces? rest
      return (.plain c :: pieces, rest)
  | c :: rest =>
      if c = '\\' ∨ c.toNat < 0x20 then none
      else do
        let (pieces, rest) ← stringPieces? rest
        return (.plain c :: pieces, rest)

def isHighSurrogate (code : Nat) : Bool :=
  0xD800 ≤ code && code < 0xDC00

def isLowSurrogate (code : Nat) : Bool :=
  0xDC00 ≤ code && code < 0xE000

/-- The text of a string's pieces; surrogates must come in pairs. -/
def joinPieces? : List Piece → Option (List Char)
  | [] => some []
  | .plain c :: rest => (joinPieces? rest).map (c :: ·)
  | .unit high :: .unit low :: rest =>
      if isHighSurrogate high then
        if isLowSurrogate low then
          (joinPieces? rest).map
            (Char.ofNat (0x10000 + (high - 0xD800) * 0x400 + (low - 0xDC00)) :: ·)
        else none
      else if isLowSurrogate high then none
      else (joinPieces? (.unit low :: rest)).map (Char.ofNat high :: ·)
  | .unit code :: rest =>
      if isHighSurrogate code || isLowSurrogate code then none
      else (joinPieces? rest).map (Char.ofNat code :: ·)

/-- The content of a string whose opening quote has been read. -/
def stringContent? (text : List Char) : Option (Option String × List Char) :=
  (stringPieces? text).map fun (pieces, rest) =>
    ((joinPieces? pieces).map String.ofList, rest)

/-- The whole part of a number: zero, or digits that do not begin with zero. -/
def wholePart? (text : List Char) : Option (List Char × List Char) :=
  match text with
  | '0' :: rest => some (['0'], rest)
  | text =>
      let (digits, rest) := Decimal.spanDigits text
      if digits.isEmpty then none else some (digits, rest)

/-- A point with digits behind it, if there is a point. -/
def fractionPart? (text : List Char) : Option (List Char × List Char) :=
  match text with
  | '.' :: rest =>
      let (digits, rest) := Decimal.spanDigits rest
      if digits.isEmpty then none else some ('.' :: digits, rest)
  | text => some ([], text)

def exponentSign (text : List Char) : List Char × List Char :=
  match text with
  | '+' :: rest => (['+'], rest)
  | '-' :: rest => (['-'], rest)
  | text => ([], text)

/-- An exponent, if its mark is there. -/
def exponentPart? (text : List Char) : Option (List Char × List Char) :=
  match text with
  | mark :: rest =>
      if mark = 'e' ∨ mark = 'E' then
        let (sign, rest) := exponentSign rest
        let (digits, rest) := Decimal.spanDigits rest
        if digits.isEmpty then none else some (mark :: (sign ++ digits), rest)
      else some ([], mark :: rest)
  | [] => some ([], [])

/-- A number at the head of a text, as it is written. -/
def numberLiteral? (text : List Char) : Option (List Char × List Char) := do
  let (sign, text) := match text with
    | '-' :: rest => (['-'], rest)
    | text => ([], text)
  let (whole, text) ← wholePart? text
  let (fraction, text) ← fractionPart? text
  let (exponent, text) ← exponentPart? text
  return (sign ++ whole ++ fraction ++ exponent, text)

mutual

/-- A value at the head of a text; `depth` bounds the nesting. -/
def value? : (depth : Nat) → List Char → Option (Json × List Char)
  | 0, _ => none
  | depth + 1, text =>
      match skipSpace text with
      | 'n' :: 'u' :: 'l' :: 'l' :: rest => some (.null, rest)
      | 't' :: 'r' :: 'u' :: 'e' :: rest => some (.bool true, rest)
      | 'f' :: 'a' :: 'l' :: 's' :: 'e' :: rest => some (.bool false, rest)
      | '"' :: rest => (stringContent? rest).map fun (content, rest) => (.string content, rest)
      | '[' :: rest =>
          match skipSpace rest with
          | ']' :: rest => some (.array [], rest)
          | rest => (elements? depth rest).map fun (elements, rest) => (.array elements, rest)
      | '\x7b' :: rest =>
          match skipSpace rest with
          | '\x7d' :: rest => some (.object [], rest)
          | rest => (members? depth rest).map fun (members, rest) => (.object members, rest)
      | text => (numberLiteral? text).map fun (literal, rest) =>
          (.number (String.ofList literal), rest)

/-- One or more elements and the bracket that closes them. -/
def elements? : (depth : Nat) → List Char → Option (List Json × List Char)
  | 0, _ => none
  | depth + 1, text => do
      let (first, rest) ← value? depth text
      match skipSpace rest with
      | ']' :: rest => return ([first], rest)
      | ',' :: rest =>
          let (others, rest) ← elements? depth rest
          return (first :: others, rest)
      | _ => none

/-- One or more members and the brace that closes them. -/
def members? : (depth : Nat) → List Char → Option (List (Option String × Json) × List Char)
  | 0, _ => none
  | depth + 1, text =>
      match skipSpace text with
      | '"' :: rest => do
          let (key, rest) ← stringContent? rest
          match skipSpace rest with
          | ':' :: rest =>
              let (first, rest) ← value? depth rest
              match skipSpace rest with
              | '\x7d' :: rest => return ([(key, first)], rest)
              | ',' :: rest =>
                  let (others, rest) ← members? depth rest
                  return ((key, first) :: others, rest)
              | _ => none
          | _ => none
      | _ => none

end

/-- A whole text as one value.  Every level of nesting and every further
element takes a character, so the length bounds both. -/
def parse? (text : String) : Option Json := do
  let chars := text.toList
  let (json, rest) ← value? (chars.length + 1) chars
  if (skipSpace rest).isEmpty then some json else none

end Json

end DailySignals
