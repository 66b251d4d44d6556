/-!
# Pages

A page is a slice of a list.  A limit of zero asks for the default size, and no
page is larger than the greatest size.
-/

set_option autoImplicit false

namespace DailySignals

structure PageRequest where
  offset : Nat
  limit : Nat
  deriving DecidableEq, Repr

namespace PageRequest

def defaultSize : Nat := 100

def greatestSize : Nat := 1000

def effectiveLimit (request : PageRequest) : Nat :=
  if request.limit = 0 then defaultSize else min request.limit greatestSize

end PageRequest

/-- A slice of a list, with the length of the whole. -/
structure Page (β : Type) where
  rows : List β
  total : Nat
  hasMore : Bool

namespace Page

def ofList {β : Type} (request : PageRequest) (rows : List β) : Page β :=
  let rest := rows.drop request.offset
  { rows := rest.take request.effectiveLimit
    total := rows.length
    hasMore := decide (request.effectiveLimit < rest.length) }

end Page

end DailySignals
