import AgentPipeline.Json.Decode
import AgentPipeline.Timestamp
import AgentPipeline.Uuid

/-!
# Codecs

The JSON forms of the values that several records share.
-/

namespace AgentPipeline

namespace Json

/-- The member of a field that is left out where it has no value. -/
def optionalMember (key : String) : Option Json → List (String × Json)
  | none => []
  | some value => [(key, value)]

/-- A natural number of 32 bits. -/
def word32 (value : UInt32) : Json := nat value.toNat

/-- A natural number of 64 bits. -/
def word64 (value : UInt64) : Json := nat value.toNat

def orNull : Option Json → Json
  | none => .null
  | some value => value

/-- An object with a member for every entry of a map. -/
def ofTextMap {α : Type} (encode : α → Json) (map : SortedMap String α) :
    Json :=
  .object (map.entries.map fun entry => (entry.1, encode entry.2))

/-- An object with a member for every entry of a map by number. -/
def ofWordMap {α : Type} (encode : α → Json) (map : SortedMap UInt32 α) :
    Json :=
  .object (map.entries.map fun entry =>
    (Text.decimal entry.1.toNat, encode entry.2))

end Json

namespace Timestamp

def encode (moment : Timestamp) : Json :=
  .string moment.print

def decoder : Decoder Timestamp :=
  fun limit document => (Decoder.text limit document).bind parse?

end Timestamp

namespace Uuid

def encode (identifier : Uuid) : Json :=
  .string identifier.print

def decoder : Decoder Uuid :=
  fun limit document => (Decoder.text limit document).bind parse?

end Uuid

end AgentPipeline
