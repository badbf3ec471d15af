/-! A bounded queue that keeps the newest items: pushing onto a full ring drops its oldest
item. The capacity is at least one. -/
namespace LintWatch.Metrics

/-- Items oldest first, never more than `capacity`. -/
structure Ring (α : Type) where
  items : List α := []
  capacity : Nat
  deriving Repr, Inhabited

namespace Ring

/-- An empty ring; a capacity of zero is taken as one. -/
def new (capacity : Nat) : Ring α := { capacity := max capacity 1 }

def size (r : Ring α) : Nat := r.items.length

def isEmpty (r : Ring α) : Bool := r.items.isEmpty

/-- Adds an item, answering the item dropped to make room, if any. -/
def push (r : Ring α) (x : α) : Option α × Ring α :=
  match r.items with
  | oldest :: rest =>
    if r.items.length ≥ r.capacity then (some oldest, { r with items := rest ++ [x] })
    else (none, { r with items := r.items ++ [x] })
  | [] => (none, { r with items := [x] })

/-- Up to `n` items, newest first. -/
def newest (r : Ring α) (n : Nat) : List α := r.items.reverse.take n

end Ring

end LintWatch.Metrics
