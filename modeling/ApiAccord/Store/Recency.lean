/-!
# Tables with a bound

A `Recency` table holds at most as many entries as its capacity.  Entries are listed from the one
whose last use lies furthest back to the one used last; a new entry displaces from the front.
-/

namespace ApiAccord

/-- A table of entries by key, bounded in number. -/
structure Recency (α : Type) where
  capacity : Nat
  /-- The entries, from least to most recently used. -/
  entries : List (String × α)
  /-- How many look-ups found their key, and how many did not. -/
  hits : Nat
  misses : Nat

namespace Recency

variable {α : Type}

/-- The empty table. -/
def empty (capacity : Nat) : Recency α := ⟨capacity, [], 0, 0⟩

/-- The keys, from least to most recently used. -/
def keys (t : Recency α) : List String := t.entries.map (·.1)

def size (t : Recency α) : Nat := t.entries.length

/-- Whether a key is held.  This is no use of its entry. -/
def contains (t : Recency α) (key : String) : Bool := t.keys.contains key

/-- The entries beside that of a key. -/
def others (t : Recency α) (key : String) : List (String × α) :=
  t.entries.filter fun e => e.1 != key

/-- Looks a key up; its entry becomes the one used last. -/
def get (t : Recency α) (key : String) : Option α × Recency α :=
  match t.entries.lookup key with
  | some a => (some a, { t with entries := t.others key ++ [(key, a)], hits := t.hits + 1 })
  | none => (none, { t with misses := t.misses + 1 })

/-- Holds an entry under a key, in place of an earlier one.  What the table has no room for is
dropped from the front. -/
def set (t : Recency α) (key : String) (a : α) : Recency α :=
  let entries := t.others key ++ [(key, a)]
  { t with entries := entries.drop (entries.length - t.capacity) }

/-- Drops the entry of a key. -/
def invalidate (t : Recency α) (key : String) : Recency α := { t with entries := t.others key }

/-- Drops all entries. -/
def clear (t : Recency α) : Recency α := { t with entries := [] }

end Recency

end ApiAccord
