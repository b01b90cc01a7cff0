import DesignKit.Toml.Value

/-! # TOML documents

A TOML document is written statement by statement: headers open tables and assignments put values into them.
A document under construction knows which tables may not be opened by a header again and which values may not
be added to, so that nothing is ever defined twice. -/

namespace DesignKit.Toml

/-- The parts of a dotted key. -/
abbrev Key := List String

/-- A document under construction. -/
structure Document where
  table : Table
  /-- The table that assignments go to. -/
  header : Key
  /-- Tables that are defined and cannot be opened by a header. -/
  defined : List Key
  /-- Tables that dotted keys have made; they count as defined from the next header on. -/
  pending : List Key
  /-- Inline tables and arrays, which are closed along with everything in them. -/
  closed : List Key

namespace Document

/-- The document without any statement. -/
def empty : Document := ⟨[], [], [], [], []⟩

/-- Changes the table that a key leads to, with the tables on the way made where they are absent. Of an array
of tables the last one is meant. A key that leads through another value leads nowhere. -/
def change (f : Table → Option Table) : Key → Table → Option Table
  | [], t => f t
  | part :: rest, t =>
    match t.get? part with
    | none => (change f rest []).map fun inner => t.set part (.table inner)
    | some (.table inner) => (change f rest inner).map fun inner => t.set part (.table inner)
    | some (.list items) =>
      match items.getLast? with
      | some (.table inner) =>
        (change f rest inner).map fun inner => t.set part (.list (items.dropLast ++ [.table inner]))
      | _ => none
    | some _ => none

/-- Puts a value under a key of a table, unless there is one already. -/
def assign (part : String) (v : Value) (t : Table) : Option Table :=
  if t.has part then none else some (t.set part v)

/-- A value is closed: neither it nor anything in it can be added to. -/
def isClosed (closed : List Key) (key : Key) : Bool :=
  closed.any (·.isPrefixOf key)

/-- An inline table or an array, which nothing can be added to later. -/
def isInline : Value → Bool
  | .table _ => true
  | .list _ => true
  | _ => false

/-- The tables that the parts of a dotted key but the last lead through. -/
def passed (header key : Key) : List Key :=
  (List.range (key.length - 1)).map fun n => header ++ key.take (n + 1)

/-- An assignment. -/
def set (d : Document) (key : Key) (v : Value) : Option Document :=
  let tables := passed d.header key
  let parent := d.header ++ key.dropLast
  if tables.any d.defined.contains || isClosed d.closed parent then none
  else
    match key.getLast? with
    | none => none
    | some last =>
      (change (assign last v) parent d.table).map fun table =>
        { d with
          table := table
          pending := d.pending ++ tables
          closed := if isInline v then d.closed ++ [d.header ++ key] else d.closed }

/-- The tables made by dotted keys become defined. -/
def settle (d : Document) : Document :=
  { d with defined := d.defined ++ d.pending, pending := [] }

/-- The header of a table. -/
def openTable (d : Document) (key : Key) : Option Document :=
  let d := d.settle
  if d.defined.contains key || isClosed d.closed key then none
  else
    (change some key d.table).map fun table =>
      { d with table := table, header := key, defined := d.defined ++ [key] }

/-- Appends an empty table to the array under a key. -/
def append (part : String) (t : Table) : Option Table :=
  match t.get? part with
  | none => some (t.set part (.list [.table []]))
  | some (.list items) => some (t.set part (.list (items ++ [.table []])))
  | some _ => none

/-- The header of a new table of an array. What was defined in the table before it may be defined again. -/
def openItem (d : Document) (key : Key) : Option Document :=
  let d := d.settle
  if isClosed d.closed key then none
  else
    match key.getLast? with
    | none => none
    | some last =>
      (change (append last) key.dropLast d.table).map fun table =>
        { d with
          table := table
          header := key
          defined := d.defined.filter (fun k => !key.isPrefixOf k) ++ [key]
          closed := d.closed.filter fun k => !key.isPrefixOf k }

end Document
end DesignKit.Toml
