/-!
# Entries by key

A finite map from texts, kept as a list of entries in the order of their keys, each key once. Two such
lists with the same entries are the same list.
-/

set_option autoImplicit false

namespace DurableJobs

abbrev Keyed (α : Type) := List (String × α)

namespace Keyed

variable {α : Type}

/-- Put an entry in, in place of the one with its key. -/
def put (key : String) (value : α) : Keyed α → Keyed α
  | [] => [(key, value)]
  | (k, v) :: rest =>
      if key < k then (key, value) :: (k, v) :: rest
      else if key = k then (key, value) :: rest
      else (k, v) :: put key value rest

/-- The entries of a list in any order; of two with one key the later stays. -/
def ofList (entries : List (String × α)) : Keyed α :=
  entries.foldl (fun sorted entry => put entry.1 entry.2 sorted) []

end Keyed

end DurableJobs
