import AgentPipeline.Json.Value

/-!
# Documents

A document is what a JSON text spells, before it is read as a value of any
kind: members in the order written and with every repetition, texts that may
hold half of a surrogate pair, and numbers that may be out of range.  Such
spellings are well formed but have no value; they only matter where the value
is asked for.
-/

namespace AgentPipeline

/-- A text as spelled in a document. -/
structure Spelling where
  /-- The text, unless an escape gives half of a surrogate pair. -/
  value : Option String
  /-- Whether every character stands for itself. -/
  verbatim : Bool
deriving DecidableEq, Inhabited

/-- The syntax tree of a JSON text. -/
inductive Document where
  | null
  | bool (value : Bool)
  /-- A number, with a value unless it is out of range. -/
  | number (value : Option Number)
  | string (spelling : Spelling)
  | array (items : List Document)
  | object (members : List (Spelling × Document))
deriving Inhabited

namespace Document

mutual

/-- The document that spells a value without escapes. -/
def ofJson : Json → Document
  | .null => .null
  | .bool value => .bool value
  | .number value => .number (some value)
  | .string text => .string ⟨some text, true⟩
  | .array items => .array (ofItems items)
  | .object members => .object (ofMembers members)

def ofItems : List Json → List Document
  | [] => []
  | item :: rest => ofJson item :: ofItems rest

def ofMembers : List (String × Json) → List (Spelling × Document)
  | [] => []
  | (key, value) :: rest => (⟨some key, true⟩, ofJson value) :: ofMembers rest

end

mutual

/-- The number of brackets around the innermost part. -/
def depth : Document → Nat
  | .array items => depthOfItems items + 1
  | .object members => depthOfMembers members + 1
  | _ => 0

def depthOfItems : List Document → Nat
  | [] => 0
  | item :: rest => max (depth item) (depthOfItems rest)

def depthOfMembers : List (Spelling × Document) → Nat
  | [] => 0
  | (_, value) :: rest => max (depth value) (depthOfMembers rest)

end

mutual

/-- The value of a document with at most `limit` brackets around any part, in
canonical form: of several members with one key the last counts. -/
def value? (limit : Nat) : Document → Option Json
  | .null => some .null
  | .bool value => some (.bool value)
  | .number value => value.map .number
  | .string spelling => spelling.value.map .string
  | .array items =>
      match limit with
      | 0 => none
      | inner + 1 => (items? inner items).map .array
  | .object members =>
      match limit with
      | 0 => none
      | inner + 1 =>
          (members? inner members).map fun entries =>
            .object (SortedMap.ofList entries).entries

def items? (limit : Nat) : List Document → Option (List Json)
  | [] => some []
  | item :: rest =>
      match value? limit item, items? limit rest with
      | some value, some values => some (value :: values)
      | _, _ => none

def members? (limit : Nat) :
    List (Spelling × Document) → Option (List (String × Json))
  | [] => some []
  | (key, item) :: rest =>
      match key.value, value? limit item, members? limit rest with
      | some name, some value, some entries => some ((name, value) :: entries)
      | _, _, _ => none

end

def hasValue (limit : Nat) (document : Document) : Bool :=
  (document.value? limit).isSome

end Document

end AgentPipeline
