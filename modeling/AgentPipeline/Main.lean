import AgentPipeline.Command.Project
import AgentPipeline.Http.Message
import AgentPipeline.Service.Recording
import AgentPipeline.Store.FileChange
import Std.Async.DNS
import Std.Async.Signal
import Std.Async.TCP
import Std.Sync.CancellationToken

/-!
# The program

A command acts on a scene that holds what is known of the world so far: the
answers that the service has given and the lines that were typed.  Where it
needs more it halts, and the program finds out what is missing and performs
the command again from its start.  What it shows then begins with what it has
shown before, so that only the rest is written.

The service is reached over plain HTTP.  The present is the moment at which
the program was called.
-/

namespace AgentPipeline.Program

open Std (CancellationToken)
open Std.Async (Async AsyncTask Selectable DNS.getAddrInfo)
open Std.Async.TCP.Socket (Client)

/-- The number of bytes that are asked for at once. -/
def portion : Nat := 65536

/-! ## Files -/

/-- What the disk holds under an absolute path. -/
def findNode? (path : FilePath) : IO (Option FileNode) := do
  try
    return some (.file (← IO.FS.readBinFile ("/" ++ path.key)))
  catch
    | .inappropriateType none _ _ => return some .directory
    | _ => return none

/-- Enters what the disk holds along names from a path. -/
def survey (tree : FileTree) (path : FilePath) : List String → IO FileTree
  | [] => return tree
  | name :: rest => do
      if name = "" ∨ name = "." then survey tree path rest
      else if name = ".." then survey tree path.dropLast rest
      else
        let next := path ++ [name]
        match ← findNode? next with
        | some node => survey (tree.insert next node) next rest
        | none => return tree

/-- Enters what the disk holds along the text of a path. -/
def surveyPath (tree : FileTree) (origin : FilePath) (text : String) :
    IO FileTree :=
  survey tree (if text.startsWith "/" then [] else origin)
    (FileTree.namesOf text)

/-- The part of the disk that the project below a root consists of. -/
def surveyProject (origin : FilePath) (root : String) : IO FileTree := do
  let here ← survey .empty [] origin
  let tree ← surveyPath here origin (Settings.filePath root)
  match Settings.load tree origin root with
  | .error _ => return tree
  | .ok settings =>
      let directory := Project.stateDirectory settings root
      (StoreKey.all.map StoreKey.name).foldlM (fun tree key =>
        surveyPath tree origin (DirectoryStore.joinPath directory
          (DirectoryStore.fileName key))) tree

/-- Makes a change on the disk; a file is replaced as a whole. -/
def makeChange : FileChange → IO Unit
  | .makeDirectory path => IO.FS.createDirAll ("/" ++ path)
  | .writeFile path content => do
      let draft := "/" ++ path ++ ".tmp"
      IO.FS.writeBinFile draft content
      IO.FS.rename draft ("/" ++ path)
  | .remove path => IO.FS.removeFile ("/" ++ path)

/-! ## Requests -/

def socketAddress (port : UInt16) : Std.Net.IPAddr → Std.Net.SocketAddress
  | .v4 addr => .v4 ⟨addr, port⟩
  | .v6 addr => .v6 ⟨addr, port⟩

/-- Connects to the first address that accepts. -/
def connect (port : UInt16) : List Std.Net.IPAddr → Async Client
  | [] => throw (.userError "no address accepts a connection")
  | address :: others => do
      try
        let client ← Client.mk
        client.connect (socketAddress port address)
        return client
      catch _ => connect port others

/-- The bytes that arrive next; none once the connection is closed or nobody
waits for them. -/
def receive (client : Client) (abandoned : CancellationToken) :
    Async (Option ByteArray) := do
  try
    Selectable.one #[
      .case (client.recvSelector portion.toUInt64) fun bytes => return bytes,
      .case abandoned.selector fun _ => return none]
  catch _ => return none

/-- Receives until the reply is complete or the connection is closed. -/
partial def receiveReply (client : Client) (abandoned : CancellationToken)
    (received : ByteArray) : Async (Option HttpReply) := do
  match HttpReply.ofReceived? received false with
  | some reply => if reply.isComplete then return some reply
  | none => pure ()
  match ← receive client abandoned with
  | none => return HttpReply.ofReceived? received true
  | some bytes => receiveReply client abandoned (received ++ bytes)

/-- Sends a request and receives the reply. -/
def talk (request : HttpRequest) (abandoned : CancellationToken) :
    Async (Option HttpReply) := do
  let host := request.url.host.toList.filter fun character =>
    character ≠ '[' ∧ character ≠ ']'
  let addresses ← DNS.getAddrInfo (String.ofList host) ""
  let client ← connect (UInt16.ofNat request.url.port) addresses.toList
  client.send request.bytes
  receiveReply client abandoned .empty

/-- What becomes of a request; nobody answers where only encrypted connections
are accepted. -/
def exchange (request : Option HttpRequest)
    (abandoned : CancellationToken) : IO Exchange := do
  match request with
  | none => return .unanswered
  | some request =>
      if request.url.isSecure then return .unanswered
      try
        match ← (talk request abandoned).block with
        | some reply => return .replied reply
        | none => return .unanswered
      catch _ => return .unanswered

/-! ## Sessions -/

structure Interruption where
  waiter : Std.Async.Signal.Waiter
  occurred : AsyncTask Int

/-- A command that is being carried out. -/
structure Session where
  command : Command
  settings : Settings
  client : HttpClient
  /-- The store as it was found. -/
  store : DirectoryStore
  supply : Supply
  /-- The console with the input that is known so far. -/
  console : Console
  /-- The calls that the service has answered. -/
  recorded : List RecordedCall
  /-- The files as they are on the disk. -/
  tree : FileTree
  /-- The number of characters written. -/
  written : Nat
  /-- The moment of the scene up to which time has passed, and the reading of
  the clock at that moment. -/
  moment : Nat
  reading : Nat
  /-- The interruption, once it no longer ends the program. -/
  interruption : Option Interruption
  /-- Whether the command knows that the user has interrupted it. -/
  isInterrupted : Bool

namespace Session

/-- The scene on which the command acts. -/
def scene (session : Session) : Scene DirectoryStore RecordedService :=
  .new session.settings session.store (.replaying session.recorded)
    session.supply session.console

/-- Writes what a scene shows beyond what has been written, and stores what it
keeps. -/
def publish (session : Session)
    (scene : Scene DirectoryStore RecordedService) : IO Session := do
  let output := scene.console.output
  IO.print (String.ofList (output.toList.drop session.written))
  (← IO.getStdout).flush
  let tree := scene.world.store.tree
  (session.tree.changes tree).forM makeChange
  return { session with tree, written := output.length }

/-- From now on an interruption does not end the program. -/
def guardInterruption (session : Session) : IO Session := do
  match session.interruption with
  | some _ => return session
  | none =>
      let waiter ← Std.Async.Signal.Waiter.mk .sigint false
      return { session with
        interruption := some ⟨waiter, ← waiter.wait⟩ }

/-- Whether the user has interrupted the program since the command knows. -/
def hasNews (session : Session) : IO Bool := do
  match session.interruption with
  | some interruption =>
      let state ← interruption.occurred.getState
      return state == .finished && !session.isInterrupted
  | none => return false

/-- Waits until something holds, or the user interrupts the program. -/
partial def await (session : Session) (holds : IO Bool) : IO Unit := do
  if !(← holds) && !(← session.hasNews) then
    IO.sleep 5
    session.await holds

/-- The moment of the scene at present. -/
def present (session : Session) : IO Nat :=
  return session.moment + ((← IO.monoMsNow) - session.reading)

/-- The session at a moment that has come. -/
def proceed (session : Session) (moment : Nat) : IO Session :=
  return { session with moment, reading := ← IO.monoMsNow }

/-- The session in which the command knows of an interruption. -/
def interruptAt (session : Session) (moment : Nat) : Session :=
  { session with
    console := { session.console with interruptAt := some moment }
    isInterrupted := true }

/-- The session in which a call has been answered. -/
def record (session : Session) (request : Request)
    (outcome : request.Outcome) (duration : Nat) : Session :=
  { session with
    recorded := session.recorded ++ [⟨request, outcome, duration⟩] }

/-- Makes a call; nothing is left of a session whose call the user interrupts
where the command cannot go on without it. -/
def call (session : Session) (request : Request) :
    IO (Option Session) := do
  let client := session.client
  let abandoned ← CancellationToken.new
  let task ← IO.asTask (exchange (client.request? request) abandoned)
  let isOverdue : IO Bool := do
    match client.timeLimit? request with
    | some limit => return session.moment + limit ≤ (← session.present)
    | none => return false
  session.await do
    return (← IO.hasFinished task) || (← isOverdue)
  let hasFinished ← IO.hasFinished task
  let isInterrupted := !hasFinished && !(← isOverdue)
  let now ← session.present
  abandoned.cancel
  let isAwaited := RecordedService.isAwaited request
  if isInterrupted then
    if isAwaited then
      return some ((session.record request (.error (client.refusal request))
        RecordedService.never).interruptAt now)
    else return none
  let outcome ← if hasFinished then IO.ofExcept task.get else pure .overdue
  let duration := if isAwaited then now - session.moment else 0
  return some (← (session.record request (client.outcome request outcome)
    duration).proceed (session.moment + duration))

/-- Makes a call at a moment, unless the user interrupts the program before
it. -/
def callAt (session : Session) (moment : Nat) (request : Request) :
    IO (Option Session) := do
  let session ← session.guardInterruption
  session.await do return moment ≤ (← session.present)
  let now ← session.present
  if now < moment then return some (session.interruptAt now)
  else (← session.proceed (max moment session.moment)).call request

/-- Asks a question; an interruption is noted in front of the answer. -/
def ask (session : Session) (prompt : String) : IO Session := do
  let session ← session.guardInterruption
  IO.print (prompt ++ " ")
  (← IO.getStdout).flush
  let line ← (← IO.getStdin).getLine
  let hasNews ← session.hasNews
  let mark := if hasNews then String.singleton Console.interruption else ""
  let isOpen := !line.isEmpty || hasNews
  return { session with
    console := { session.console with
      typed := session.console.typed.map fun lines =>
        if isOpen then lines ++ [mark ++ line] else lines
      staysOpen := isOpen }
    isInterrupted := session.isInterrupted || hasNews }

/-- Reads a stream to its end, where it gives less than was asked for. -/
partial def readAll (stream : IO.FS.Stream) (content : ByteArray) :
    IO ByteArray := do
  let bytes ← stream.read portion.toUSize
  if bytes.size < portion then return content ++ bytes
  else readAll stream (content ++ bytes)

def readInput (session : Session) : IO Session := do
  let content ← readAll (← IO.getStdin) .empty
  let console := session.console
  return { session with
    console := { console with
      typed := console.typed.map fun _ => [Text.ofBytes content]
      staysOpen := false
      piped := some content } }

/-- Finds out what the command wants to know. -/
def findOut (session : Session) (missing : Option Request) :
    Wanted → IO (Option Session)
  | .input => return some (← session.readInput)
  | .line prompt => return some (← session.ask prompt)
  | .answer moment =>
      match missing with
      | some request => session.callAt moment request
      | none => return none

/-- The exit code of a program that an interruption has ended. -/
def interruptedCode : UInt32 := 130

/-- Carries out the command; gives the exit code. -/
partial def carryOut (session : Session) : IO UInt32 := do
  let (scene, outcome) := session.scene.after session.command
  let session ← session.publish scene
  match outcome with
  | .ok () => return 0
  | .error (.failed error) =>
      IO.eprintln ("Error: " ++ error.message)
      return 1
  | .error (.wanting wanted) =>
      match ← session.findOut scene.world.service.missing wanted with
      | some session => session.carryOut
      | none => return interruptedCode

/-- A supply of identifiers and the present time. -/
def newSupply : IO Supply := do
  let bits := (← IO.getRandomBytes 11).toList.foldl
    (fun bits byte => 256 * bits + byte.toNat) 0
  let now := (← Std.Time.Timestamp.now).val
  return ⟨bits * UInt32.size, 0, ⟨now.second.val, now.nano.val.toNat⟩⟩

def start (project : Project) (tree : FileTree) (command : Command)
    (environment : Environment) : IO Session := do
  let colors := environment.colors (← (← IO.getStdout).isTty)
  let isTerminal ← (← IO.getStdin).isTty
  return {
    command
    settings := project.settings
    client := project.client
    store := project.store
    supply := ← newSupply
    console := { Console.new colors true none with
      typed := if isTerminal then some [] else none
      staysOpen := isTerminal }
    recorded := []
    tree
    written := 0
    moment := 0
    reading := ← IO.monoMsNow
    interruption := none
    isInterrupted := false }

end Session

/-! ## The call of the program -/

def readEnvironment : IO Environment := do
  let found ← Environment.names.mapM fun name => do
    return (← IO.getEnv name).map fun value => (name, value)
  return ⟨found.filterMap id⟩

/-- Carries out the command of an invocation in its project. -/
def invoke (invocation : Invocation) (environment : Environment) :
    IO UInt32 := do
  let here ← IO.currentDir
  let origin := (FileTree.namesOf here.toString).filter (· ≠ "")
  let tree ← surveyProject origin invocation.root
  match Project.openAt tree origin invocation.root invocation.address with
  | .error error =>
      IO.eprintln ("Error: " ++ error.message)
      return 1
  | .ok project =>
      (← Session.start project tree invocation.command environment).carryOut

/-- Carries out the words of a command line; gives the exit code. -/
def run (words : List String) : IO UInt32 := do
  let environment ← readEnvironment
  let help := Text.ofParagraphs Invocation.helpText
  match Invocation.read environment words with
  | .ok invocation => invoke invocation environment
  | .error .help =>
      IO.print help
      return 0
  | .error .version =>
      IO.println Invocation.versionLine
      return 0
  | .error .bareCommand =>
      IO.eprint help
      return 2
  | .error error =>
      IO.eprintln ("error: " ++ error.message)
      return 2

end AgentPipeline.Program

/-- Calls the program with the words of the command line. -/
def main (words : List String) : IO UInt32 :=
  AgentPipeline.Program.run words
