import ApiAccord.Failure
import ApiAccord.Settings.Basic
import ApiAccord.Store.Recency

/-!
# Stores

A `Store` keeps what was loaded, by key.  It is either a bounded table in memory, which is gone at
the end, or a table in a directory, which is found again when the directory is opened anew.
-/

namespace ApiAccord

/-- The entries of a store in a directory. -/
abbrev Entries (α : Type) := List (String × α)

/-- A place to keep what was loaded. -/
inductive Store (α : Type) where
  | memory (table : Recency α)
  | disk (directory : String) (limit : Int) (entries : Entries α)

namespace Store

variable {α : Type}

/-- Opens the store that the settings ask for: none if storing is off.  `directory` is where a store
on disk would be, with the entries that are there already. -/
def ofSettings (s : StoreSettings) (directory : Option String) (entries : Entries α) :
    Except Failure (Option (Store α)) :=
  if !s.enabled then .ok none
  else if s.backend == "memory" then .ok (some (.memory (.empty s.capacity.toNat)))
  else if s.backend == "disk" then
    match directory with
    | some d => .ok (some (.disk d s.diskLimit entries))
    | none => .error (.badStore "The disk cache backend needs a cache directory")
  else .error (.badStore ("Unknown cache backend: " ++ s.backend))

/-- Looks a key up. -/
def get (s : Store α) (key : String) : Option α × Store α :=
  match s with
  | .memory t =>
    let (a, t) := t.get key
    (a, .memory t)
  | .disk d n entries => (entries.lookup key, .disk d n entries)

/-- Keeps an entry under a key, in place of an earlier one. -/
def set (s : Store α) (key : String) (a : α) : Store α :=
  match s with
  | .memory t => .memory (t.set key a)
  | .disk d n entries => .disk d n (entries.filter (·.1 != key) ++ [(key, a)])

/-- Drops the entry of a key. -/
def invalidate (s : Store α) (key : String) : Store α :=
  match s with
  | .memory t => .memory (t.invalidate key)
  | .disk d n entries => .disk d n (entries.filter (·.1 != key))

/-- Drops all entries. -/
def clear (s : Store α) : Store α :=
  match s with
  | .memory t => .memory t.clear
  | .disk d n _ => .disk d n []

/-- The entries that a later opening of the same directory finds. -/
def lasting (s : Store α) : Entries α :=
  match s with
  | .memory _ => []
  | .disk _ _ entries => entries

/-- What can be said about a store. -/
def stats (s : Store α) : List (String × Value) :=
  match s with
  | .memory t => [
      ("backend", .str "memory"),
      ("size", .int t.size),
      ("max_entries", .int t.capacity),
      ("hits", .int t.hits),
      ("misses", .int t.misses)]
  | .disk d n entries => [
      ("backend", .str "disk"),
      ("size", .int entries.length),
      ("directory", .str d),
      ("size_limit_mb", .int n)]

end Store

end ApiAccord
