/-!
# Maps in the order of their keys

A map is a list of entries with distinct keys in ascending order. Inserting a key that is there
already replaces its value, so of several entries with one key the last counts.
-/

namespace SignatureAudit

/-- Inserts an entry among entries in ascending order of keys. -/
def insertSorted {α : Type} (key : String) (value : α) :
    List (String × α) → List (String × α)
  | [] => [(key, value)]
  | (k, v) :: rest =>
    if key < k then (key, value) :: (k, v) :: rest
    else if key = k then (key, value) :: rest
    else (k, v) :: insertSorted key value rest

/-- The map of some entries, of which the last with a key counts. -/
def sortedMap {α : Type} (entries : List (String × α)) : List (String × α) :=
  entries.foldl (fun map entry => insertSorted entry.1 entry.2 map) []

/-- The value of the last entry with the given key. -/
def lookupLast? {κ α : Type} [DecidableEq κ] (key : κ) (entries : List (κ × α)) : Option α :=
  (entries.filter (·.1 = key)).getLast?.map (·.2)

end SignatureAudit
