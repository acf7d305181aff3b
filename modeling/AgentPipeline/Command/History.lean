import AgentPipeline.Command.Basic
import AgentPipeline.Command.Scene
import AgentPipeline.History.Store

/-!
# Commands for the history
-/

namespace AgentPipeline

/-- The full report on an entry of the history. -/
def HistoryItem.report (item : HistoryItem) (colors : Bool) : List String :=
  [Style.faint.apply colors "Recorded" ++ " " ++ item.recordedAt.listed,
    Style.boldface.apply colors "Input:" ++ " " ++ item.run.inputText ++ "\n"]
    ++ item.run.report colors

def HistoryItem.listing (items : List HistoryItem) (colors : Bool) :
    List String :=
  if items.isEmpty then ["No runs recorded yet."]
  else items.zipIdx.map fun entry => entry.1.row colors (entry.2 + 1)

/-- What is written when a number of entries has been removed. -/
def HistoryCommand.removedLine (count : Nat) : String :=
  "Removed " ++ Text.decimal count ++ " history entr"
    ++ (if count = 1 then "y" else "ies") ++ "."

/-- Shows or clears the history. -/
def HistoryCommand.perform {σ ς : Type} [KeyValueStore σ] [DelayedService ς]
    (command : HistoryCommand) : Act σ ς Unit := do
  let capacity := (← get).settings.pipeline.historyCapacity.toNat
  let history ← Act.expect .storage (History.load (← Act.store) capacity)
  let colors ← Act.colors
  match command with
  | .list => Act.printAll (HistoryItem.listing history.items colors)
  | .entry number =>
      match number with
      | 0 => throw (.failed (.noEntry 0 history.items.length))
      | position + 1 =>
          match history.items[position]? with
          | none => throw (.failed (.noEntry number history.items.length))
          | some item => Act.printAll (item.report colors)
  | .clear =>
      let (outcome, cleared) := history.clear
      Act.keepStore cleared.store
      Act.expect .storage outcome
      Act.print (removedLine history.items.length)

end AgentPipeline
