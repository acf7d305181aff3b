import AgentPipeline.Codec.Form

/-!
# Members by name

Scripts are written as JSON objects.  A member is read by its name as a value
of the type that is wanted; of several members with one name the last counts,
members that nobody asks for are passed over, and an optional member may also
be `null`.
-/

namespace AgentPipeline

namespace Document

variable {α : Type}

/-- The number of brackets that a member may open. -/
def memberDepth : Nat := 1000000

/-- The document as a value of a type. -/
def as? [JsonDecode α] (document : Document) : Option α :=
  JsonDecode.decoder memberDepth document

def member? (document : Document) (name : String) : Option Document :=
  match document with
  | .object members =>
      (members.reverse.find? fun member =>
        member.1.value == some name).map Prod.snd
  | _ => none

/-- The member with a name, unless it is `null`. -/
def given? (document : Document) (name : String) : Option Document :=
  match document.member? name with
  | some .null => none
  | found => found

/-- The value of a member. -/
def need [JsonDecode α] (document : Document) (name : String) : Option α :=
  (document.member? name).bind as?

/-- The value of an optional member. -/
def want [JsonDecode α] (document : Document) (name : String) :
    Option (Option α) :=
  match document.given? name with
  | none => some none
  | some found => found.as?.map some

/-- The value of an optional member, or else a default. -/
def orElse [JsonDecode α] (document : Document) (name : String)
    (default : α) : Option α :=
  (document.want name).map (·.getD default)

/-- The items of a member that is an array; without it there are none. -/
def items (document : Document) (name : String) : List Document :=
  match document.given? name with
  | some (.array items) => items
  | _ => []

end Document

end AgentPipeline
