import DailySignals.Condition.Scanner
import DailySignals.Config.Settings

/-!
# INI documents

A document is read line by line: headers in brackets open a section, other
lines set a key.  Comments begin with a semicolon or a hash anywhere.  Names of
sections and keys are kept in small letters, a later setting of a key replaces
an earlier one, and sections of one name are one section.
-/

set_option autoImplicit false

namespace DailySignals

/-- A line that cannot be read, counted from one. -/
inductive IniFault where
  | unclosedHeader (line : Nat)
  | emptyKey (line column : Nat)
  deriving DecidableEq, Repr

namespace IniFault

def message : IniFault → String
  | unclosedHeader line =>
      "line " ++ toString line ++
        ": Found opening bracket for section name but no closing bracket"
  | emptyKey line column =>
      "line " ++ toString line ++ ":" ++ toString column ++ ": Key cannot be empty"

end IniFault

/-- A setting as it stands in a document.  A key without a delimiter has no
value. -/
structure IniEntry where
  group : String
  key : String
  value : Option String
  deriving DecidableEq, Repr

/-- The settings of a document in the order of their lines. -/
structure Ini where
  entries : List IniEntry
  deriving DecidableEq, Repr

namespace Ini

def isComment (c : Char) : Bool :=
  c = ';' || c = '#'

def isDelimiter (c : Char) : Bool :=
  c = '=' || c = ':'

/-- What a line says, without comments and the blanks around. -/
def content (line : List Char) : List Char :=
  Text.trimChars ((Text.trimChars line).takeWhile fun c => !isComment c)

/-- A name as it is kept: trimmed and in small letters. -/
def nameOf (text : List Char) : String :=
  Text.lowercase (String.ofList (Text.trimChars text))

/-- The section named by a header whose opening bracket has been read: all up
to the last closing bracket. -/
def headerName? (text : List Char) : Option String :=
  if text.contains ']' then
    some (nameOf (text.reverse.dropWhile (· != ']')).tail.reverse)
  else none

/-- The setting that a line makes in a section. -/
def entryOf (group : String) (number : Nat) (text : List Char) : Except IniFault IniEntry :=
  let key := text.takeWhile fun c => !isDelimiter c
  match text.dropWhile fun c => !isDelimiter c with
  | [] => .ok ⟨group, nameOf key, none⟩
  | _ :: value =>
      if (Text.trimChars key).isEmpty then .error (.emptyKey number (Refusal.byteSize key))
      else .ok ⟨group, nameOf key, some (String.ofList (Text.trimChars value))⟩

/-- The entries of the lines from `number` on, which begin inside a section. -/
def entriesFrom (group : String) (number : Nat) :
    List (List Char) → Except IniFault (List IniEntry)
  | [] => .ok []
  | line :: rest =>
      match content line with
      | [] => entriesFrom group (number + 1) rest
      | '[' :: header =>
          match headerName? header with
          | none => .error (.unclosedHeader number)
          | some name => entriesFrom name (number + 1) rest
      | text => do
          let entry ← entryOf group number text
          let others ← entriesFrom group (number + 1) rest
          return entry :: others

def parse (text : String) : Except IniFault Ini :=
  (entriesFrom "default" 1 (text.toList.splitOn '\n')).map Ini.mk

/-- The value of a key, as its last setting gives it. -/
def value? (ini : Ini) (group key : String) : Option String :=
  let group := Text.lowercase group
  let key := Text.lowercase key
  (ini.entries.reverse.find? fun entry => entry.group == group && entry.key == key).bind
    (·.value)

def settings (ini : Ini) : Settings :=
  ⟨ini.value?⟩

end Ini

end DailySignals
