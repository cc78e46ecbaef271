import SignatureAudit.Toml.Statement

/-!
# Reading TOML documents

The statements of a document build its tables one after the other: a key with its value goes into
the table whose header came last. `Toml.read?` answers the entries of a document, or nothing for a
text that is none.
-/

namespace SignatureAudit.Toml

/-- A table opened by its header, which may so far only have been implied. -/
def openTable : Option Toml → Option Toml
  | none => some (.table .header [])
  | some (.table .implied entries) => some (.table .header entries)
  | some _ => none

/-- Several tables with one more opened at their end. -/
def openItem : Option Toml → Option Toml
  | none => some (.tables [[]])
  | some (.tables items) => some (.tables (items ++ [[]]))
  | some _ => none

/-- The open table with one more value. -/
def assignOpen (value : Toml) (path : List String) (key : String) : Option Toml → Option Toml
  | some (.table .header entries) => (assign value key path .header entries).map (.table .header)
  | some (.tables items) => (changeLast (assign value key path .header) items).map .tables
  | _ => none

/-- The entries of a document as far as they are read, and the path of the open table. -/
structure Draft where
  entries : Entries := []
  opened : List String := []

/-- Adds what a statement says. -/
def Draft.add (draft : Draft) : Statement → Option Draft
  | .entry path key value =>
    if draft.opened.isEmpty then do
      some { draft with entries := ← assign value key path .header draft.entries }
    else do
      some { draft with
        entries := ← atHeader (assignOpen value path key) draft.opened draft.entries }
  | .header path key => do
    some { entries := ← atHeader openTable (path ++ [key]) draft.entries, opened := path ++ [key] }
  | .item path key => do
    some { entries := ← atHeader openItem (path ++ [key]) draft.entries, opened := path ++ [key] }

/-- The entries of the document that a text is. A byte order mark may stand in front. -/
def read? (text : String) : Option Entries := do
  let cs := match text.toList with
    | '\uFEFF' :: rest => rest
    | cs => cs
  let draft ← (← statements? cs).foldlM Draft.add {}
  some draft.entries

end SignatureAudit.Toml
