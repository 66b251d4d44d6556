import DailySignals.Condition.Match

/-!
# Coarse filters

A data source may narrow down the rows of a day by a filter before they are
screened.  A filter made from a set of conditions lets every successful
snapshot through that satisfies the set; rows are checked again afterwards.
-/

set_option autoImplicit false

namespace DailySignals

/-- Bounds on a field, ends included; an absent bound is open. -/
structure FieldRange (α : Type) where
  field : Field
  least : Option α
  greatest : Option α
  deriving DecidableEq, Repr

/-- A list that is empty restricts nothing. -/
structure SnapshotFilter (α : Type) where
  markets : List String
  industries : List String
  symbols : List String
  tagsAny : List Tag
  tagsAll : List Tag
  ranges : List (FieldRange α)
  onlySuccess : Bool
  deriving DecidableEq, Repr

namespace SnapshotFilter

variable {α : Type}

def successful : SnapshotFilter α :=
  ⟨[], [], [], [], [], [], true⟩

/-- The filter with what one condition of a conjunction asks for added. -/
def narrow (filter : SnapshotFilter α) : Condition α → SnapshotFilter α
  | .numeric field comparison =>
      if field.isKnown then
        let (least, greatest) := comparison.bounds
        { filter with ranges := filter.ranges ++ [⟨field, least, greatest⟩] }
      else filter
  | .category .market values => { filter with markets := filter.markets ++ values }
  | .category .industry values => { filter with industries := filter.industries ++ values }
  | .category (.other _) _ => filter
  | .tags anyOf allOf _ =>
      { filter with tagsAny := filter.tagsAny ++ anyOf, tagsAll := filter.tagsAll ++ allOf }
  | .symbols admitted _ => { filter with symbols := filter.symbols ++ admitted }

/-- The filter for a set.  Only a conjunction narrows anything down. -/
def ofSet (set : ConditionSet α) : SnapshotFilter α :=
  match set.logic with
  | .any => successful
  | .all => set.conditions.foldl narrow successful

variable [Arithmetic α]

/-- Whether a snapshot has a value between the bounds.  A bound that does not
compare with the value, such as not-a-number, refuses nothing. -/
def inRange (snapshot : Snapshot α) (range : FieldRange α) : Bool :=
  (snapshot.value? range.field).any fun value =>
    !(range.least.any fun least => decide (value < least)) &&
      !(range.greatest.any fun greatest => decide (greatest < value))

def accepts (filter : SnapshotFilter α) (snapshot : Snapshot α) : Bool :=
  (!filter.onlySuccess || snapshot.success) &&
    (filter.markets.isEmpty || namesValue filter.markets snapshot.market) &&
    (filter.industries.isEmpty || namesValue filter.industries snapshot.industry) &&
    (filter.symbols.isEmpty || filter.symbols.contains snapshot.symbol) &&
    (filter.tagsAny.isEmpty || filter.tagsAny.any snapshot.hasTag) &&
    filter.tagsAll.all snapshot.hasTag &&
    filter.ranges.all (inRange snapshot)

end SnapshotFilter

end DailySignals
