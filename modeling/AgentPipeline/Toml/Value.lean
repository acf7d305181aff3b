import AgentPipeline.Number.Double

/-!
# TOML values

A document is built by two kinds of steps, entering a value under a dotted key
and opening a table by its header.  A table may be extended as long as it has
not been defined: dotted keys extend only tables made by dotted keys, and a
header may define a table that so far was only named on the way to others.
-/

namespace AgentPipeline

/-- How a table came to be. -/
inductive TableOrigin where
  /-- A header defines the table. -/
  | header
  /-- The header of another table names it on the way. -/
  | implied
  /-- A dotted key names it on the way. -/
  | dotted
  /-- It is written as a value. -/
  | inlined
deriving DecidableEq, Inhabited, Repr

/-- A TOML value.  The parts of dates and times are not kept. -/
inductive Toml where
  | text (value : String)
  | integer (value : Int)
  | float (value : Double)
  | flag (value : Bool)
  | moment
  | array (items : List Toml)
  | table (origin : TableOrigin) (entries : List (String × Toml))
  /-- Tables that share a header, the newest first. -/
  | tables (newestFirst : List Toml)
deriving Inhabited, Repr

namespace Toml

abbrev Entries := List (String × Toml)

/-- The document without any entry. -/
def emptyDocument : Toml := .table .header []

def replaceEntry (entries : Entries) (key : String) (value : Toml) :
    Entries :=
  if entries.any fun entry => entry.1 == key then
    entries.map fun entry => if entry.1 == key then (key, value) else entry
  else entries ++ [(key, value)]

/-- Changes the entries of the table that a path leads to from a table.
`origin` is the origin of the tables that are missing on the way.  A table
that is written as a value cannot be passed, and a dotted key cannot pass a
table that a header defines. -/
def changeAt (origin : TableOrigin)
    (change : TableOrigin → Entries → Option Entries) :
    List String → Toml → Option Toml
  | [], .table own entries => (change own entries).map (.table own)
  | [], _ => none
  | key :: path, .table own entries =>
      let next : Option Toml := match entries.lookup key with
        | none => changeAt origin change path (.table origin [])
        | some (.table .inlined _) => none
        | some (.table child below) =>
            if origin = .dotted ∧ child = .header then none
            else changeAt origin change path (.table child below)
        | some (.tables (newest :: older)) =>
            (changeAt origin change path newest).map fun changed =>
              .tables (changed :: older)
        | some _ => none
      next.map fun changed => .table own (replaceEntry entries key changed)
  | _ :: _, _ => none

/-- Changes the table that a header has opened. -/
def openedAt (change : Toml → Option Toml) : List String → Toml → Option Toml
  | [], opened => change opened
  | key :: path, .table origin entries => do
      let child ← entries.lookup key
      let changed ← match child with
        | .tables (newest :: older) =>
            (openedAt change path newest).map fun changed =>
              .tables (changed :: older)
        | other => openedAt change path other
      some (.table origin (replaceEntry entries key changed))
  | _ :: _, _ => none

/-- Enters a value under a new key of a table.  Below a dotted key the table
has to be one that dotted keys have made. -/
def enter (path : List String) (key : String) (value : Toml)
    (table : Toml) : Option Toml :=
  changeAt .dotted (fun origin entries =>
    if (path.isEmpty || origin = .dotted)
        && !entries.any fun entry => entry.1 == key then
      some (entries ++ [(key, value)])
    else none) path table

/-- Enters a value under a dotted key of the table that a header opened. -/
def enterBelow (document : Toml) (current path : List String)
    (key : String) (value : Toml) : Option Toml :=
  openedAt (enter path key value) current document

def openTable (path : List String) (key : String) (document : Toml) :
    Option Toml :=
  changeAt .implied (fun _ entries =>
    match entries.lookup key with
    | none => some (entries ++ [(key, .table .header [])])
    | some (.table .implied below) =>
        some (replaceEntry entries key (.table .header below))
    | some _ => none) path document

/-- Opens one more table of a header that several tables share. -/
def openNext (path : List String) (key : String) (document : Toml) :
    Option Toml :=
  changeAt .implied (fun _ entries =>
    match entries.lookup key with
    | none => some (entries ++ [(key, .tables [.table .header []])])
    | some (.tables older) =>
        some (replaceEntry entries key (.tables (.table .header [] :: older)))
    | some _ => none) path document

end Toml

end AgentPipeline
