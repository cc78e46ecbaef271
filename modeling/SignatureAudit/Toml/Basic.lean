/-!
# TOML documents

The values of a TOML document. Floats and dates are checked when a document is read, but no setting
has such a value, so only their presence is kept. A table remembers how it came about, since that
decides what may still be added to it.
-/

namespace SignatureAudit

namespace Toml

/-- How a table came about. -/
inductive Origin
  /-- By its own header, or as the root. -/
  | header
  /-- By the header of a table inside it. -/
  | implied
  /-- By a dotted key. -/
  | dotted
  /-- In braces. -/
  | inline
  deriving DecidableEq, Repr

end Toml

/-- A TOML value. -/
inductive Toml
  | string (text : String)
  | integer (value : Int)
  | float
  | boolean (value : Bool)
  | dateTime
  | array (items : List Toml)
  | table (origin : Toml.Origin) (entries : List (String × Toml))
  /-- Tables under headers in double brackets. -/
  | tables (items : List (List (String × Toml)))
  deriving Repr, Inhabited

namespace Toml

/-- The entries of a table. -/
abbrev Entries := List (String × Toml)

/-- Replaces or adds an entry. -/
def put (key : String) (value : Toml) : Entries → Entries
  | [] => [(key, value)]
  | (k, old) :: rest => if k = key then (k, value) :: rest else (k, old) :: put key value rest

/-- Changes the last of some tables. -/
def changeLast (f : Entries → Option Entries) (items : List Entries) : Option (List Entries) := do
  let last ← items.getLast?
  some (items.dropLast ++ [← f last])

/-- Adds the value of a key with the given dots to a table that came about in the given way. A key
is given once, and a dotted key adds only to tables that dotted keys made; it passes through those
that headers inside them implied. -/
def assign (value : Toml) (key : String) :
    (path : List String) → (inside : Origin) → Entries → Option Entries
  | [], _, entries => if (entries.lookup key).isSome then none else some (entries ++ [(key, value)])
  | name :: path, _, entries =>
    let admits (origin : Origin) : Bool := !path.isEmpty || origin = .dotted
    match entries.lookup name with
    | none => do some (put name (.table .dotted (← assign value key path .dotted [])) entries)
    | some (.table origin inner) =>
      if (origin = .dotted || origin = .implied) && admits origin then do
        some (put name (.table origin (← assign value key path origin inner)) entries)
      else none
    | some (.tables items) =>
      if admits .header then do
        some (put name (.tables (← changeLast (assign value key path .header) items)) entries)
      else none
    | some _ => none

/-- Changes what stands at the path of a header. Tables on the way are implied where they are
missing, and of several tables under one header the last is meant. -/
def atHeader (change : Option Toml → Option Toml) : (path : List String) → Entries → Option Entries
  | [], _ => none
  | [key], entries => do some (put key (← change (entries.lookup key)) entries)
  | name :: next :: path, entries =>
    match entries.lookup name with
    | none => do some (put name (.table .implied (← atHeader change (next :: path) [])) entries)
    | some (.table .inline _) => none
    | some (.table origin inner) => do
      some (put name (.table origin (← atHeader change (next :: path) inner)) entries)
    | some (.tables items) => do
      some (put name (.tables (← changeLast (atHeader change (next :: path)) items)) entries)
    | some _ => none

end Toml

end SignatureAudit
