import AgentPipeline.Rehearsal.Notice
import AgentPipeline.Terminal.Report

/-!
# The console

What a command reads and writes.  The lines of events are written by a task of
its own, which runs only while the command waits; so an event that is announced
between two lines of the command may be reported after both.
-/

namespace AgentPipeline

/-- The input and the output of a command. -/
structure Console where
  /-- Whether styles are written. -/
  colors : Bool
  /-- Whether a command waits for the answer to every call, or only where time
  passes. -/
  callsWait : Bool
  /-- The lines typed on the terminal that are still to be read, each with its
  end; `none` when the input is no terminal. -/
  typed : Option (List String)
  /-- Whether more lines may be typed. -/
  staysOpen : Bool
  /-- The input that is no terminal, once it has been read. -/
  piped : Option ByteArray
  /-- The moment at which the user interrupts the command. -/
  interruptAt : Option Nat
  /-- What has been written. -/
  output : String
  /-- The events that are still to be reported. -/
  announced : List Event
  /-- The questions that were asked. -/
  prompts : List String

namespace Console

/-- A console without any output. -/
def new (colors callsWait : Bool) (piped : Option ByteArray) : Console where
  colors
  callsWait
  typed := none
  staysOpen := false
  piped
  interruptAt := none
  output := ""
  announced := []
  prompts := []

/-- What the user types to interrupt the command. -/
def interruption : Char := '\x03'

/-- The lines of a text, each with its end. -/
def lines : List Char → List String
  | [] => []
  | '\n' :: rest => "\n" :: lines rest
  | character :: rest =>
      match lines rest with
      | [] => [String.singleton character]
      | line :: others => (String.singleton character ++ line) :: others

def print (console : Console) (line : String) : Console :=
  { console with output := console.output ++ line ++ "\n" }

def printAll (console : Console) (paragraphs : List String) : Console :=
  { console with
    output := console.output ++ Text.ofParagraphs paragraphs }

/-- Reports the announced events. -/
def drain (console : Console) : Console :=
  { console.printAll
      (console.announced.filterMap (Event.line? console.colors)) with
    announced := [] }

/-- Takes in what happened. -/
def absorb (console : Console) : List Notice → Console
  | [] => console
  | .event announced :: rest =>
      { console with
        announced := console.announced ++ [announced] }.absorb rest
  | .call _ :: rest =>
      (if console.callsWait then console.drain else console).absorb rest
  | .waited :: rest => console.drain.absorb rest

/-- A question as it is asked: the answer that counts when there is none is
the capital one. -/
def prompt (question : String) (default : Bool) : String :=
  question ++ " " ++ if default then "[Y/n]" else "[y/N]"

def answerOf (line : String) (default : Bool) : Bool :=
  match Text.lowerAscii (Text.trim line) with
  | "y" | "yes" => true
  | "n" | "no" => false
  | _ => default

/-- What a line that is typed says: the answer, and whether the user
interrupted the command before it. -/
def reading (line : String) (default : Bool) : Bool × Bool :=
  let characters := line.toList
  let interrupted := characters.head? = some interruption
  let answer := if interrupted then characters.tail else characters
  (answerOf (String.ofList answer) default, interrupted)

end Console

end AgentPipeline
