import AgentPipeline.Json.Reader

/-!
# Decoding documents

A decoder reads a document as a value of a type.  Its first argument is the
number of brackets that may still be opened; a part that no decoder looks at
may be nested more deeply.

A record is an object whose members are found by any spelling of a field's
name, in any order and among members of other names, or an array of the fields
in their order.  A field that occurs twice makes the record unreadable.
-/

namespace AgentPipeline

/-- Reads a document inside a number of brackets. -/
abbrev Decoder (α : Type) := Nat → Document → Option α

namespace Decoder

def text : Decoder String
  | _, .string spelling => spelling.value
  | _, _ => none

/-- A truth value. -/
def flag : Decoder Bool
  | _, .bool value => some value
  | _, _ => none

/-- A natural number below a bound; a number with a fraction or an exponent is
not accepted. -/
def natural (bound : Nat) : Decoder Nat
  | _, .number (some (.integer (.ofNat value))) =>
      if value < bound then some value else none
  | _, _ => none

/-- A natural number of 32 bits. -/
def word32 : Decoder UInt32 :=
  fun limit document =>
    (natural UInt32.size limit document).map UInt32.ofNat

/-- A natural number of 64 bits. -/
def word64 : Decoder UInt64 :=
  fun limit document =>
    (natural UInt64.size limit document).map UInt64.ofNat

/-- A floating-point number; an integer counts as one. -/
def double : Decoder Double
  | _, .number (some (.float value)) => some value
  | _, .number (some (.integer value)) => some (Double.ofInt value)
  | _, _ => none

/-- Any value, in canonical form. -/
def payload : Decoder Json :=
  Document.value?

/-- A value or `null`. -/
def optional {α : Type} (decoder : Decoder α) : Decoder (Option α)
  | _, .null => some none
  | limit, document => (decoder limit document).map some

/-- An array of values of one kind. -/
def list {α : Type} (decoder : Decoder α) : Decoder (List α)
  | limit + 1, .array items => items.mapM (decoder limit)
  | _, _ => none

/-- An object with a value of one kind for every key; of several members with
one key the last counts. -/
def keyed {κ α : Type} [Ord κ] [Std.TransOrd κ] [Std.LawfulEqOrd κ]
    (readKey : Spelling → Option κ) (decoder : Decoder α) :
    Decoder (SortedMap κ α)
  | limit + 1, .object members =>
      (members.mapM fun (member : Spelling × Document) => do
        let key ← readKey member.1
        let value ← decoder limit member.2
        some (key, value)).map SortedMap.ofList
  | _, _ => none

def textKey (spelling : Spelling) : Option String :=
  spelling.value

/-- A key that is a natural number of 32 bits: its digits without escapes and
without zeros in front. -/
def wordKey (spelling : Spelling) : Option UInt32 := do
  let text ← spelling.value
  let value := Text.ofDecimalDigits text.toList
  if spelling.verbatim ∧ text.toList = Text.decimalDigits value
      ∧ value < UInt32.size then
    some (UInt32.ofNat value)
  else none

/-- One of several names: a text, or an object that gives the name the value
`null`. -/
def choice {α : Type} (names : List (String × α)) : Decoder α
  | _, .string spelling =>
      spelling.value.bind fun name =>
        (names.find? fun entry => entry.1 == name).map Prod.snd
  | _ + 1, .object [(key, .null)] =>
      key.value.bind fun name =>
        (names.find? fun entry => entry.1 == name).map Prod.snd
  | _, _ => none

/-- One of several names, in a record whose members stand among those of
another record: there the object may also give the name an empty object. -/
def embeddedChoice {α : Type} (names : List (String × α)) : Decoder α
  | limit, .object [(key, .object [])] =>
      choice names limit (.object [(key, .null)])
  | limit, document => choice names limit document

/-- The accepted names of the fields of a record, in their order. -/
abbrev FieldNames := List (List String)

/-- The position of the field that a name belongs to. -/
def fieldIndex? (fields : FieldNames) (name : String) : Option Nat :=
  fields.findIdx? fun names => names.contains name

/-- Enters a member into the slots of the fields; a slot that is taken makes
the record unreadable, and a name of no field is passed over. -/
def enterMember (fields : FieldNames) (slots : List (Option Document))
    (member : Spelling × Document) : Option (List (Option Document)) := do
  let name ← member.1.value
  match fieldIndex? fields name with
  | none => some slots
  | some index =>
      match slots[index]? with
      | some none => some (slots.set index (some member.2))
      | _ => none

/-- The slots of the fields, filled from the members of an object. -/
def slotsOfMembers (fields : FieldNames)
    (members : List (Spelling × Document)) :
    Option (List (Option Document)) :=
  members.foldlM (enterMember fields) (fields.map fun _ => none)

/-- The slots of the fields, filled from the items of an array in order. -/
def slotsOfItems (fields : FieldNames) (items : List Document) :
    Option (List (Option Document)) :=
  if items.length ≤ fields.length then
    some (items.map some ++
      List.replicate (fields.length - items.length) none)
  else none

/-- A record written as an object. -/
def members {α : Type} (fields : FieldNames)
    (build : Nat → List (Option Document) → Option α) : Decoder α
  | limit + 1, .object entries =>
      (slotsOfMembers fields entries).bind (build limit)
  | _, _ => none

/-- A record written as an object or as an array. -/
def record {α : Type} (fields : FieldNames)
    (build : Nat → List (Option Document) → Option α) : Decoder α
  | limit + 1, .object entries =>
      (slotsOfMembers fields entries).bind (build limit)
  | limit + 1, .array items => (slotsOfItems fields items).bind (build limit)
  | _, _ => none

/-- The value of a field that has to be present. -/
def required {α : Type} (decoder : Decoder α) (limit : Nat)
    (slot : Option Document) : Option α :=
  slot.bind (decoder limit)

/-- The value of a field with a default for its absence. -/
def defaulting {α : Type} (default : α) (decoder : Decoder α) (limit : Nat) :
    Option Document → Option α
  | none => some default
  | some document => decoder limit document

/-- The value of a field that may be absent or `null`. -/
def absentOr {α : Type} (decoder : Decoder α) (limit : Nat)
    (slot : Option Document) : Option (Option α) :=
  defaulting none (optional decoder) limit slot

/-- The value that a whole text spells. -/
def parse? {α : Type} (decoder : Decoder α) (text : String) : Option α :=
  (Document.parse? text).bind (decoder Json.depthLimit)

/-- The value that a JSON value spells, however deeply it is nested. -/
def ofJson? {α : Type} (decoder : Decoder α) (value : Json) : Option α :=
  let document := Document.ofJson value
  decoder document.depth document

end Decoder

end AgentPipeline
