import AgentPipeline.Http.Client
import AgentPipeline.Json.Printer
import AgentPipeline.Number.Reading

/-!
# HTTP messages

The bytes of a request, and the reply that received bytes hold.  A reply is a
status line, header fields and a body; the body is a sequence of chunks, or has
a stated length, or goes on until the connection is closed.
-/

namespace AgentPipeline

namespace HttpRequest

/-- The host of the request, with a port that is not the one of its scheme. -/
def authority (request : HttpRequest) : String :=
  request.url.host
    ++ if request.url.port = Url.defaultPort request.url.isSecure then ""
      else ":" ++ Text.decimal request.url.port

/-- The bytes of the request; the connection is used for it alone. -/
def bytes (request : HttpRequest) : ByteArray :=
  let content := (request.body.map Json.text).getD ""
  let fields := [("host", request.authority), ("accept", "*/*"),
      ("connection", "close")]
    ++ (if request.body.isSome then [("content-type", "application/json")]
      else [])
    ++ (if request.method = "GET" then []
      else [("content-length", Text.decimal content.utf8ByteSize)])
  let lines := (request.method ++ " " ++ request.url.target ++ " HTTP/1.1")
    :: fields.map fun field => field.1 ++ ": " ++ field.2
  (String.join (lines.map (· ++ "\r\n")) ++ "\r\n" ++ content).toUTF8

end HttpRequest

namespace HttpReply

/-- The line that bytes begin with, and what follows its end. -/
def splitLine? : List UInt8 → Option (List UInt8 × List UInt8)
  | [] => none
  | 13 :: 10 :: rest => some ([], rest)
  | byte :: rest =>
      (splitLine? rest).map fun (line, rest) => (byte :: line, rest)

/-- The text of bytes that are characters of their own. -/
def lineText (line : List UInt8) : String :=
  String.ofList (line.map fun byte => Char.ofNat byte.toNat)

/-- The lines of a head up to the empty one, and what follows it; there are at
most as many lines as there is fuel. -/
def splitHead? : Nat → List UInt8 → Option (List String × List UInt8)
  | 0, _ => none
  | more + 1, bytes => do
      let (line, rest) ← splitLine? bytes
      if line.isEmpty then some ([], rest)
      else
        let (lines, rest) ← splitHead? more rest
        some (lineText line :: lines, rest)

def status? (line : String) : Option Nat :=
  match Text.piecesBetween (· == ' ') line.toList with
  | _ :: digits :: _ => Text.natural? 1000 (String.ofList digits)
  | _ => none

/-- The value of a header field, by its name in lower case. -/
def field? (fields : List String) (name : String) : Option String :=
  fields.findSome? fun line =>
    let key := line.toList.takeWhile (· ≠ ':')
    if Text.lowerAscii (String.ofList key) = name then
      some (Text.trim (String.ofList (line.toList.drop (key.length + 1))))
    else none

/-- The number of bytes in a chunk, in the line in front of it. -/
def chunkSize? (line : List UInt8) : Option Nat :=
  let digits := (lineText line).toList.takeWhile fun character =>
    (Text.hexValue? character).isSome
  if digits.isEmpty then none else Url.digitsValue? 16 digits

/-- The bytes of chunks, and whether the chunk that ends them is there; there
are at most as many as there is fuel. -/
def joinChunks : Nat → List UInt8 → List UInt8 × Bool
  | 0, _ => ([], false)
  | more + 1, bytes =>
      match splitLine? bytes with
      | none => ([], false)
      | some (line, rest) =>
          match chunkSize? line with
          | none => ([], false)
          | some 0 => ([], true)
          | some size =>
              let (later, isComplete) := joinChunks more (rest.drop (size + 2))
              (rest.take size ++ later, isComplete)

/-- The body behind header fields, and whether all of it is there. -/
def bodyOf (fields : List String) (bytes : List UInt8) (isClosed : Bool) :
    List UInt8 × Bool :=
  if (field? fields "transfer-encoding").map Text.lowerAscii
      = some "chunked" then
    joinChunks (bytes.length + 1) bytes
  else
    let announced := field? fields "content-length"
    match announced.bind (Text.natural? UInt64.size) with
    | some size => (bytes.take size, size ≤ bytes.length)
    | none => (bytes, isClosed)

/-- The reply in the bytes that were received so far, once its head is there;
replies that only announce another one are passed over. -/
def ofBytes? (isClosed : Bool) : Nat → List UInt8 → Option HttpReply
  | 0, _ => none
  | more + 1, bytes => do
      let (lines, rest) ← splitHead? (bytes.length + 1) bytes
      let status ← lines.head?.bind status?
      if 100 ≤ status ∧ status < 200 then ofBytes? isClosed more rest
      else
        let (body, isComplete) := bodyOf lines.tail rest isClosed
        some (received status ⟨body.toArray⟩ isComplete)

/-- The reply in the bytes that were received until now. -/
def ofReceived? (bytes : ByteArray) (isClosed : Bool) : Option HttpReply :=
  ofBytes? isClosed (bytes.size + 1) bytes.toList

end HttpReply

end AgentPipeline
