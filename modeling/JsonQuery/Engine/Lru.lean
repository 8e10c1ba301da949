/-!
Bounded maps that forget the entry whose last use is longest ago.
-/

namespace JsonQuery

/-- The entries in the order of their last use, the most recent first. -/
structure Lru (κ α : Type) where
  capacity : Nat
  entries : List (κ × α) := []

namespace Lru

variable {κ α : Type} [BEq κ]

def size (c : Lru κ α) : Nat := c.entries.length

def isEmpty (c : Lru κ α) : Bool := c.entries.isEmpty

/-- Puts an entry in front of all others and forgets the last one if there are too many. -/
def insert (c : Lru κ α) (key : κ) (value : α) : Lru κ α :=
  { c with entries := ((key, value) :: c.entries.filter (·.1 != key)).take c.capacity }

/-- The value of a key. Looking it up is a use. -/
def get? (c : Lru κ α) (key : κ) : Option (α × Lru κ α) :=
  (c.entries.lookup key).map fun value => (value, c.insert key value)

def clear (c : Lru κ α) : Lru κ α := { c with entries := [] }

end Lru
end JsonQuery
