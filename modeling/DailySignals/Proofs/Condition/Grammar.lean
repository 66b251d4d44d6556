import DailySignals.Condition.Parser

/-!
# The grammar of conditions

Conditions are written in tokens: marks, keywords, names, numbers and bare
values, with any blanks in front of each and at the end of the text.  Keywords,
names, numbers and values never stand side by side.  There is always a mark
between two of them, so each is as long as the text has characters for it.
-/

set_option autoImplicit false

namespace DailySignals

namespace Grammar

open Text Scanner

abbrev Token := List Char

/-- Tokens one after the other, with blanks in front of each and at the end. -/
inductive Spells : List Token → List Char → Prop
  | done {blanks : List Char} (blank : ∀ c ∈ blanks, isBlank c = true) : Spells [] blanks
  | next {blanks token : List Char} {tokens : List Token} {text : List Char}
      (blank : ∀ c ∈ blanks, isBlank c = true) (others : Spells tokens text) :
      Spells (token :: tokens) (blanks ++ token ++ text)

/-- A keyword with its arguments in parentheses. -/
def enclosed (word : String) (arguments : List Token) : List Token :=
  word.toList :: ['('] :: (arguments ++ [[')']])

structure IsName (token : Token) : Prop where
  nonempty : token ≠ []
  chars : ∀ c ∈ token, isNameChar c = true

/-- A bare value may have blanks inside, but not at its ends. -/
structure IsValue (token : Token) : Prop where
  nonempty : token ≠ []
  chars : ∀ c ∈ token, isValueChar c = true
  starts : ∀ c ∈ token.head?, isBlank c = false
  ends : ∀ c ∈ token.getLast?, isBlank c = false

/-- The sign of a number; a plus sign is not written. -/
def sign (negative : Bool) : Token :=
  if negative then ['-'] else []

/-- Digits, at least one of them, with or without a point and the places behind it. -/
inductive Magnitude : (digits : List Char) → (places : Nat) → Token → Prop
  | whole {digits : List Char} (nonempty : digits ≠ [])
      (isDigit : ∀ c ∈ digits, c.isDigit = true) : Magnitude digits 0 digits
  | pointed {whole fraction : List Char} (nonempty : whole ++ fraction ≠ [])
      (isDigit : ∀ c ∈ whole ++ fraction, c.isDigit = true) :
      Magnitude (whole ++ fraction) fraction.length (whole ++ '.' :: fraction)

inductive Number : Decimal → Token → Prop
  | intro {negative : Bool} {digits : List Char} {places : Nat} {token : Token}
      (magnitude : Magnitude digits places token) :
      Number ⟨negative, Decimal.valueOf digits, -(places : Int)⟩ (sign negative ++ token)

/-- One or more items with commas between them. -/
inductive Separated {β : Type} (Item : β → List Token → Prop) : List β → List Token → Prop
  | one {value : β} {tokens : List Token} (item : Item value tokens) :
      Separated Item [value] tokens
  | more {value : β} {values : List β} {tokens others : List Token} (item : Item value tokens)
      (rest : Separated Item values others) :
      Separated Item (value :: values) (tokens ++ [','] :: others)

inductive ValueItem : String → List Token → Prop
  | intro {token : Token} (value : IsValue token) : ValueItem (String.ofList token) [token]

inductive TagItem : Tag → List Token → Prop
  | intro {token : Token} (name : IsName token) : TagItem (Tag.ofName (String.ofList token)) [token]

/-- A list behind the keyword that says what it is for. -/
inductive Clause {ρ β : Type} (labels : List (String × ρ)) (Item : β → List Token → Prop) :
    ρ × List β → List Token → Prop
  | intro {word : String} {label : ρ} {values : List β} {tokens : List Token}
      (member : (word, label) ∈ labels) (items : Separated Item values tokens) :
      Clause labels Item (label, values) (enclosed word tokens)

def tagUses : List (String × TagUse) :=
  [("ANY", .anyOf), ("ALL", .allOf), ("NONE", .noneOf)]

def symbolUses : List (String × SymbolUse) :=
  [("INCLUDE", .admitted), ("EXCLUDE", .refused)]

/-- The comparisons with one bound. -/
def comparisons {α : Type} : List (String × (α → Comparison α)) :=
  [("GT", .above), ("GTE", .atLeast), ("LT", .below), ("LTE", .atMost)]

end Grammar

open Grammar

variable {α : Type} [Arithmetic α]

/-- The ways to write a condition.  Clauses of tags and of symbols may come in
any order and again and again. -/
inductive Condition.WrittenAs : Condition α → List Token → Prop
  | comparison {word : String} {make : α → Comparison α} {name numeral : Token}
      {decimal : Decimal} (member : (word, make) ∈ comparisons) (isName : IsName name)
      (number : Number decimal numeral) :
      WrittenAs (.numeric (Field.ofName (String.ofList name)) (make (Arithmetic.ofDecimal decimal)))
        (enclosed word [name, [','], numeral])
  | between {name lower upper : Token} {least greatest : Decimal} (isName : IsName name)
      (lowerNumber : Number least lower) (upperNumber : Number greatest upper) :
      WrittenAs
        (.numeric (Field.ofName (String.ofList name))
          (.between (Arithmetic.ofDecimal least) (Arithmetic.ofDecimal greatest)))
        (enclosed "BETWEEN" [name, [','], lower, [','], upper])
  | market {values : List String} {tokens : List Token}
      (listed : Separated ValueItem values tokens) :
      WrittenAs (.category .market values) (enclosed "MARKET" tokens)
  | industry {values : List String} {tokens : List Token}
      (listed : Separated ValueItem values tokens) :
      WrittenAs (.category .industry values) (enclosed "INDUSTRY" tokens)
  | category {name : Token} {values : List String} {tokens : List Token} (isName : IsName name)
      (listed : Separated ValueItem values tokens) :
      WrittenAs (.category (Category.ofName (String.ofList name)) values)
        (enclosed "CATEGORY" (name :: [','] :: tokens))
  | tags {clauses : List (Scanner.TagUse × List Tag)} {tokens : List Token}
      (listed : Separated (Clause tagUses TagItem) clauses tokens) :
      WrittenAs
        (.tags (Scanner.listedUnder .anyOf clauses) (Scanner.listedUnder .allOf clauses)
          (Scanner.listedUnder .noneOf clauses))
        (enclosed "TAGS" tokens)
  | symbols {clauses : List (Scanner.SymbolUse × List String)} {tokens : List Token}
      (listed : Separated (Clause symbolUses ValueItem) clauses tokens) :
      WrittenAs
        (.symbols (Scanner.listedUnder .admitted clauses) (Scanner.listedUnder .refused clauses))
        (enclosed "SYMBOLS" tokens)

/-- The ways to write a set: a group of any number of conditions, or one bare
condition. -/
inductive ConditionSet.WrittenAs : ConditionSet α → List Token → Prop
  | empty {word : String} {logic : Logic} (member : (word, logic) ∈ logics) :
      WrittenAs ⟨logic, []⟩ (enclosed word [])
  | group {word : String} {logic : Logic} {conditions : List (Condition α)}
      {tokens : List Token} (member : (word, logic) ∈ logics)
      (listed : Separated Condition.WrittenAs conditions tokens) :
      WrittenAs ⟨logic, conditions⟩ (enclosed word tokens)
  | bare {condition : Condition α} {tokens : List Token} (written : condition.WrittenAs tokens) :
      WrittenAs (.all [condition]) tokens

end DailySignals
