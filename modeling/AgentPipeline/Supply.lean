import AgentPipeline.Timestamp
import AgentPipeline.Uuid

/-!
# Identifiers and time

A supply gives out identifiers, no two of which are equal, and the present
time, which goes on with every reading.
-/

namespace AgentPipeline

/-- Where new identifiers and the time come from. -/
structure Supply where
  /-- The random bits in front of the serial numbers of identifiers. -/
  seed : Nat
  /-- The number of identifiers made. -/
  made : Nat
  /-- The present time. -/
  now : Timestamp
deriving DecidableEq, Inhabited, Repr

namespace Supply

/-- A new identifier. -/
def nextId (supply : Supply) : Uuid × Supply :=
  (Uuid.ofRandomBits (supply.seed + supply.made + 1),
    { supply with made := supply.made + 1 })

/-- The present time, after which time has gone on by a microsecond. -/
def tick (supply : Supply) : Timestamp × Supply :=
  let later := supply.now.nanoseconds + 1000
  let next : Timestamp :=
    if later < Timestamp.billion then { supply.now with nanoseconds := later }
    else ⟨supply.now.seconds + 1, later - Timestamp.billion⟩
  (supply.now, { supply with now := next })

end Supply

end AgentPipeline
