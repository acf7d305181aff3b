import AgentPipeline.Codec.Event
import AgentPipeline.Json.Printer
import AgentPipeline.Terminal.Style
import AgentPipeline.Text.Blank

/-!
# Reports on the terminal

Events, runs and history items as lines of text.  A report is a list of
paragraphs, each of which ends a line; `colors` says whether styles are
written.
-/

namespace AgentPipeline

namespace Text

/-- The text filled up with spaces on its left. -/
def padLeft (width : Nat) (text : String) : String :=
  String.ofList (List.replicate (width - text.length) ' ') ++ text

/-- The text filled up with spaces on its right. -/
def padRight (width : Nat) (text : String) : String :=
  text ++ String.ofList (List.replicate (width - text.length) ' ')

/-- What stands for the rest of a text that was cut. -/
def ellipsis : Char := '…'

/-- The words of a text in one line of at most `width` characters. -/
def excerpt (text : String) (width : Nat) : String :=
  let line := singleSpaced text
  if line.length ≤ width then String.ofList line
  else String.ofList (line.take (width - 1) ++ [ellipsis])

def ofParagraphs (paragraphs : List String) : String :=
  String.join (paragraphs.map (· ++ "\n"))

end Text

namespace Json

/-- A value for reading: a text as it is, another value on several lines. -/
def display : Json → String
  | .string text => text
  | other => other.indentedText

end Json

open Style (boldface faint colored boldColored)

namespace RunStatus

/-- The status as it is shown. -/
def label (status : RunStatus) (colors : Bool) : String :=
  match status with
  | .running => (colored .cyan).apply colors "running"
  | .pausedAtCheckpoint =>
      (colored .yellow).apply colors "paused at checkpoint"
  | .completed => (colored .green).apply colors "completed"
  | .failed => (colored .red).apply colors "failed"
  | .cancelled => (colored .yellow).apply colors "cancelled"

end RunStatus

namespace EvaluatorStatus

def style : EvaluatorStatus → Style
  | .idle => faint
  | .running => colored .cyan
  | .suspended | .cancelled => colored .yellow
  | .completed => colored .green
  | .failed => colored .red

/-- The status as it is shown. -/
def label (status : EvaluatorStatus) (colors : Bool) : String :=
  status.style.apply colors status.name

end EvaluatorStatus

namespace StageState

def sign (state : StageState) (colors : Bool) : String :=
  match state with
  | .idle => faint.apply colors "·"
  | .processing => (colored .cyan).apply colors "…"
  | .completed => (colored .green).apply colors "✓"
  | .error => (colored .red).apply colors "✗"
  | .cancelled => (colored .yellow).apply colors "■"

end StageState

namespace Event

/-- The line that reports an event; some events are not reported. -/
def line? (colors : Bool) : Event → Option String
  | .runStarted _ attempt =>
      some ((colored .cyan).apply colors "▶" ++ " attempt "
        ++ Text.decimal attempt.toNat)
  | .stageStarted _ stage =>
      some ("  " ++ faint.apply colors "•" ++ " " ++ stage.agent ++ "...")
  | .stageCompleted _ stage milliseconds =>
      some ("  " ++ (colored .green).apply colors "✓" ++ " " ++ stage.agent
        ++ " (" ++ Text.decimal milliseconds.toNat ++ " ms)")
  | .stageFailed _ stage error =>
      some ("  " ++ (colored .red).apply colors "✗" ++ " " ++ stage.agent
        ++ ": " ++ error)
  | .stageCancelled _ stage =>
      some ("  " ++ (colored .yellow).apply colors "■" ++ " " ++ stage.agent
        ++ " cancelled")
  | .checkpointReached _ =>
      some ((colored .yellow).apply colors "⏸" ++ " checkpoint reached")
  | .runCompleted _ _ (some true) =>
      some ((boldColored .green).apply colors "Run completed: output is valid")
  | .runCompleted _ _ (some false) =>
      some ((boldColored .yellow).apply colors
        "Run completed: validation failed")
  | .runCompleted _ _ none =>
      some ((boldColored .green).apply colors "Run completed")
  | .runFailed _ error =>
      some ((boldColored .red).apply colors "Run failed:" ++ " " ++ error)
  | .runCancelled _ reason =>
      some ((boldColored .yellow).apply colors "Run cancelled:" ++ " "
        ++ reason)
  | .historyRecorded .. => none
  | .evaluatorStarted run kind =>
      some ((colored .cyan).apply colors "▶" ++ " " ++ kind ++ " run " ++ run)
  | .pollTick _ cursor itemsSeen =>
      some ("  " ++ faint.apply colors "↻" ++ " cursor "
        ++ Text.decimal cursor.toNat ++ ", " ++ Text.decimal itemsSeen.toNat
        ++ " item(s)")
  | .evaluatorStatusChanged _ status notify =>
      if notify then
        some (boldface.apply colors "Evaluator" ++ " "
          ++ status.label colors)
      else none
  | .evaluatorResumed run =>
      some ((colored .cyan).apply colors "↻" ++ " resumed polling run " ++ run)
  | .protocolViolation detail =>
      some ((colored .red).apply colors "protocol violation:" ++ " " ++ detail)
  | .registryMirrorFailed model error =>
      some ((colored .yellow).apply colors "warning:" ++ " " ++ model
        ++ " was saved locally but not on the service: " ++ error)

end Event

namespace Run

/-- The states of the stages in one line. -/
def stageStrip (run : Run) (colors : Bool) : String :=
  "  ".intercalate (Stage.all.map fun stage =>
    (run.states.get stage).sign colors ++ " " ++ stage.agent)

def errorLine (colors : Bool) (error : String) : String :=
  "  " ++ (colored .red).apply colors "error:" ++ " " ++ error

/-- The heading and the output of a stage that has one. -/
def outputReport (run : Run) (colors : Bool) (stage : Stage) : List String :=
  match run.outputs.get stage with
  | none => []
  | some output =>
      let duration := match run.durations.get stage with
        | none => ""
        | some milliseconds =>
            " (" ++ Text.decimal milliseconds.toNat ++ " ms)"
      ["", boldface.apply colors stage.agent ++ faint.apply colors duration,
        output.display]

def report (run : Run) (colors : Bool) : List String :=
  [boldface.apply colors "Run" ++ " " ++ run.id.print ++ "  attempt "
      ++ Text.decimal run.attempt.toNat ++ "  " ++ run.status.label colors,
    "  " ++ run.stageStrip colors]
    ++ (run.error.map (errorLine colors)).toList
    ++ Stage.all.flatMap (run.outputReport colors)

end Run

namespace HistoryItem

/-- The number of characters of the input text in a listing. -/
def excerptWidth : Nat := 48

def row (item : HistoryItem) (colors : Bool) (number : Nat) : String :=
  Text.padLeft 3 (Text.decimal number) ++ "  " ++ item.recordedAt.listed
    ++ "  " ++ Text.padRight 22 (item.run.status.label colors) ++ "  attempt "
    ++ Text.decimal item.run.attempt.toNat ++ "  "
    ++ Text.excerpt item.run.inputText excerptWidth

end HistoryItem

namespace EvaluatorRun

def itemLine (colors : Bool) (index : UInt32) (item : ItemProgress) :
    String :=
  let stages := item.stageStatuses.entries.map fun entry =>
    entry.1 ++ "=" ++ entry.2
  let record := if item.recordAvailable then " [record]" else ""
  "  #" ++ Text.padRight 4 (Text.decimal index.toNat) ++ " "
    ++ " ".intercalate stages ++ faint.apply colors record

def report (run : EvaluatorRun) (colors : Bool) : List String :=
  let number (value : UInt64) : String := Text.decimal value.toNat
  let tokens := run.progress.tokens
  [boldface.apply colors "Evaluator run" ++ " " ++ run.id ++ " (" ++ run.kind
      ++ ")  " ++ run.status.label colors,
    "  cursor " ++ number run.cursor ++ "  items "
      ++ Text.decimal run.progress.items.size ++ "/"
      ++ Text.decimal run.itemLimit.toNat ++ "  model "
      ++ run.model.getD "service default",
    "  tokens " ++ number tokens.prompt ++ " prompt / "
      ++ number tokens.completion ++ " completion / " ++ number tokens.total
      ++ " total"]
    ++ (if run.autoSuspended then
        ["  " ++ faint.apply colors
          "suspended automatically when the last session ended"]
      else [])
    ++ (run.error.map (Run.errorLine colors)).toList
    ++ run.progress.items.entries.map (fun entry =>
        itemLine colors entry.1 entry.2)
    ++ match run.metrics with
      | none => []
      | some table => ["", boldface.apply colors "Metrics", table.display]

end EvaluatorRun

end AgentPipeline
