import AgentPipeline.Number.Double
import AgentPipeline.SortedMap

/-!
# JSON values

A value keeps the members of an object in a list.  Records are built with
their members in the order in which they are declared; a payload that this
program carries without looking into it is kept in canonical form, with the
members of every object in ascending order of their distinct keys.
-/

namespace AgentPipeline

/-- A JSON number: an integer of 64 bits, or a binary64 number. -/
inductive Number where
  | integer (value : Int)
  | float (value : Double)
deriving DecidableEq, Inhabited, Repr

inductive Json where
  | null
  | bool (value : Bool)
  | number (value : Number)
  | string (text : String)
  | array (items : List Json)
  | object (members : List (String × Json))
deriving Inhabited, Repr

namespace Json

mutual

/-- Equality of values is decidable. -/
def decideEq : (left right : Json) → Decidable (left = right)
  | .null, .null => isTrue rfl
  | .bool left, .bool right =>
      if same : left = right then isTrue (congrArg _ same)
      else isFalse fun equal => same (Json.bool.inj equal)
  | .number left, .number right =>
      if same : left = right then isTrue (congrArg _ same)
      else isFalse fun equal => same (Json.number.inj equal)
  | .string left, .string right =>
      if same : left = right then isTrue (congrArg _ same)
      else isFalse fun equal => same (Json.string.inj equal)
  | .array left, .array right =>
      match decideEqItems left right with
      | isTrue same => isTrue (congrArg _ same)
      | isFalse differ => isFalse fun equal => differ (Json.array.inj equal)
  | .object left, .object right =>
      match decideEqMembers left right with
      | isTrue same => isTrue (congrArg _ same)
      | isFalse differ => isFalse fun equal => differ (Json.object.inj equal)
  | .null, .bool _ | .null, .number _ | .null, .string _ | .null, .array _
  | .null, .object _ | .bool _, .null | .bool _, .number _ | .bool _, .string _
  | .bool _, .array _ | .bool _, .object _ | .number _, .null
  | .number _, .bool _ | .number _, .string _ | .number _, .array _
  | .number _, .object _ | .string _, .null | .string _, .bool _
  | .string _, .number _ | .string _, .array _ | .string _, .object _
  | .array _, .null | .array _, .bool _ | .array _, .number _
  | .array _, .string _ | .array _, .object _ | .object _, .null
  | .object _, .bool _ | .object _, .number _ | .object _, .string _
  | .object _, .array _ => isFalse (by simp)

/-- Equality of lists of values is decidable. -/
def decideEqItems : (left right : List Json) → Decidable (left = right)
  | [], [] => isTrue rfl
  | [], _ :: _ => isFalse (by simp)
  | _ :: _, [] => isFalse (by simp)
  | left :: leftRest, right :: rightRest =>
      match decideEq left right, decideEqItems leftRest rightRest with
      | isTrue same, isTrue sameRest => isTrue (by rw [same, sameRest])
      | isFalse differ, _ =>
          isFalse fun equal => differ (List.cons.inj equal).1
      | _, isFalse differ =>
          isFalse fun equal => differ (List.cons.inj equal).2

/-- Equality of lists of members is decidable. -/
def decideEqMembers :
    (left right : List (String × Json)) → Decidable (left = right)
  | [], [] => isTrue rfl
  | [], _ :: _ => isFalse (by simp)
  | _ :: _, [] => isFalse (by simp)
  | (leftKey, left) :: leftRest, (rightKey, right) :: rightRest =>
      if sameKey : leftKey = rightKey then
        match decideEq left right, decideEqMembers leftRest rightRest with
        | isTrue same, isTrue sameRest =>
            isTrue (by rw [sameKey, same, sameRest])
        | isFalse differ, _ => isFalse (by simp [differ])
        | _, isFalse differ => isFalse (by simp [differ])
      else isFalse (by simp [sameKey])

end

instance : DecidableEq Json := decideEq

/-- The number of a natural number. -/
def nat (value : Nat) : Json :=
  .number (.integer value)

/-- A floating-point number; one that is not finite has no number in JSON and
is written as `null`. -/
def double (value : Double) : Json :=
  if value.isFinite then .number (.float value) else .null

/-- The member of an object with the given key. -/
def member? (key : String) : Json → Option Json
  | .object members =>
      (members.find? fun entry => entry.1 == key).map Prod.snd
  | _ => none

mutual

/-- The same value with the members of every object in ascending order of
their keys; of several members with one key the last counts. -/
def sorted : Json → Json
  | .array items => .array (sortedItems items)
  | .object members =>
      .object (SortedMap.ofList (sortedMembers members)).entries
  | other => other

def sortedItems : List Json → List Json
  | [] => []
  | item :: rest => sorted item :: sortedItems rest

def sortedMembers : List (String × Json) → List (String × Json)
  | [] => []
  | (key, value) :: rest => (key, sorted value) :: sortedMembers rest

end

end Json

end AgentPipeline
