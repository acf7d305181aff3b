import AgentPipeline.Text.Blank
import AgentPipeline.Text.Utf8

/-!
# Web addresses

The addresses of the schemes `http` and `https`, read as the URL standard
reads them without a base: blanks around the text are dropped, a backslash
counts as a slash, dot segments are resolved, a host that ends in a number is
an address of four bytes, and what an address cannot hold is percent encoded.
Names and passwords in front of the host are passed over.  How the name of a
host outside ASCII is spelled in ASCII is a matter of the reader's tables: the
functions here are given it.
-/

namespace AgentPipeline

/-- A web address. -/
structure Url where
  /-- Whether the scheme is `https`. -/
  isSecure : Bool
  host : String
  port : Nat
  path : List String
  query : Option String
  fragment : Option String
deriving DecidableEq, Inhabited, Repr

namespace Url

def schemeName (isSecure : Bool) : String :=
  if isSecure then "https" else "http"

def defaultPort (isSecure : Bool) : Nat :=
  if isSecure then 443 else 80

def portCount : Nat := UInt16.size

/-! ## The host -/

/-- The characters that no host holds, apart from controls. -/
def hostForbidden : List Char := " #/:<>?@[\\]^|%".toList

def digitsValue? (base : Nat) (digits : List Char) : Option Nat :=
  digits.foldlM (fun value digit => do
    let next ← Text.hexValue? digit
    if next < base then some (base * value + next) else none) 0

/-- The value of a number in a host: hexadecimal after `0x`, octal after
another zero in front, otherwise decimal. -/
def hostNumber? : List Char → Option Nat
  | [] => none
  | '0' :: 'x' :: digits => digitsValue? 16 digits
  | '0' :: next :: digits => digitsValue? 8 (next :: digits)
  | digits => digitsValue? 10 digits

/-- The parts of a host between dots, without an empty part at the end. -/
def hostParts (host : List Char) : List (List Char) :=
  match (Text.piecesBetween (· == '.') host).reverse with
  | [] :: part :: others => (part :: others).reverse
  | parts => parts.reverse

/-- Whether a host has to be an address of four bytes. -/
def endsInNumber (host : List Char) : Bool :=
  match (hostParts host).getLast? with
  | none | some [] => false
  | some part => part.all Char.isDigit || (part.take 2 == ['0', 'x']
      && (part.drop 2).all fun digit => (Text.hexValue? digit).isSome)

/-- The address of four bytes with a value. -/
def dotted (value : Nat) : String :=
  ".".intercalate ([24, 16, 8, 0].map fun shift =>
    Text.decimal (value / Nat.pow 2 shift % 256))

/-- The address of four bytes that numbers stand for: the last one fills the
bytes that the others leave. -/
def ofNumbers? (numbers : List Nat) : Option String :=
  match numbers.reverse with
  | [] => none
  | last :: others =>
      if 3 < others.length ∨ others.any (256 ≤ ·)
          ∨ Nat.pow 256 (4 - others.length) ≤ last then none
      else
        some (dotted (others.reverse.zipIdx.foldl (fun value entry =>
          value + entry.1 * Nat.pow 256 (3 - entry.2)) last))

/-- The name of a host in ASCII. -/
def hostName? (spelling? : List Char → Option (List Char))
    (name : List Char) : Option (List Char) :=
  if name.all fun character => character.toNat < 0x80 then
    some (name.map Char.toLower)
  else spelling? name

/-- A host as it is compared, given how names outside ASCII are spelled. -/
def host? (spelling? : List Char → Option (List Char)) (text : List Char) :
    Option String :=
  if text.head? = some '[' then
    let inner := text.tail.dropLast
    if text.getLast? = some ']' ∧ inner ≠ [] ∧ inner.all (fun character =>
        (Text.hexValue? character).isSome || character == ':'
          || character == '.') then
      some (Text.lowerAscii (String.ofList text))
    else none
  else do
    let host ← hostName? spelling?
      (Text.charactersAfter none (Text.percentDecoded text))
    if host = [] ∨ host.any (fun character => character.toNat < 0x20
        || 0x7E < character.toNat || hostForbidden.contains character) then
      none
    else if endsInNumber host then
      ((hostParts host).mapM hostNumber?).bind ofNumbers?
    else some (String.ofList host)

/-- The host and what follows it: a colon inside brackets belongs to it. -/
def splitHost (inBrackets : Bool) : List Char → List Char × List Char
  | [] => ([], [])
  | character :: rest =>
      if character = ':' ∧ ¬ inBrackets then ([], character :: rest)
      else
        let inBrackets := character = '[' ∨ (character ≠ ']' ∧ inBrackets)
        let (host, after) := splitHost inBrackets rest
        (character :: host, after)

/-- The port in what follows a host. -/
def port? (isSecure : Bool) : List Char → Option Nat
  | [] | [_] => some (defaultPort isSecure)
  | _ :: digits => do
      let port ← if digits.all Char.isDigit then digitsValue? 10 digits
        else none
      if port < portCount then some port else none

/-! ## The path -/

/-- Whether a segment stands for the directory itself. -/
def isSingleDot (segment : List Char) : Bool :=
  [".", "%2e"].contains (Text.lowerAscii (String.ofList segment))

/-- Whether a segment stands for the directory above. -/
def isDoubleDot (segment : List Char) : Bool :=
  ["..", ".%2e", "%2e.", "%2e%2e"].contains
    (Text.lowerAscii (String.ofList segment))

def pathEscaped : List Char := " \"<>\x60#?\x7b\x7d".toList

def queryEscaped : List Char := " \"#<>'".toList

def fragmentEscaped : List Char := " \"<>\x60".toList

/-- Resolves dot segments behind segments in reverse order. -/
def resolveDots (above : List (List Char)) :
    List (List Char) → List (List Char)
  | [] => above.reverse
  | segment :: rest =>
      let above :=
        if isDoubleDot segment then above.tail
        else if isSingleDot segment then above
        else segment :: above
      let isDirectory := isDoubleDot segment || isSingleDot segment
      if rest.isEmpty && isDirectory then (([] : List Char) :: above).reverse
      else resolveDots above rest

/-- Whether a character counts as a slash. -/
def isSlash (character : Char) : Bool :=
  character == '/' || character == '\\'

def segments (path : List Char) : List String :=
  let inner := if path.head?.any isSlash then path.tail else path
  (resolveDots [] (Text.piecesBetween isSlash inner)).map fun segment =>
    String.ofList (Text.percentEncoded pathEscaped segment)

/-! ## Reading -/

/-- The text without blanks and controls around it, and without any tabs and
line ends. -/
def cleaned (text : String) : List Char :=
  let isAround (character : Char) : Bool := character.toNat ≤ 0x20
  let start := text.toList.dropWhile isAround
  (start.reverse.dropWhile isAround).reverse.filter fun character =>
    !(['\t', '\n', '\r'].contains character)

/-- Whether the scheme in front is `https`, and what follows its colon; other
schemes are not read. -/
def scheme? (text : List Char) : Option (Bool × List Char) :=
  match Text.lowerAscii (String.ofList (text.takeWhile (· ≠ ':'))),
      text.dropWhile (· ≠ ':') with
  | "http", _ :: rest => some (false, rest)
  | "https", _ :: rest => some (true, rest)
  | _, _ => none

/-- Reads a web address, given how names outside ASCII are spelled. -/
def parse? (spelling? : List Char → Option (List Char)) (text : String) :
    Option Url := do
  let (isSecure, rest) ← scheme? (cleaned text)
  let rest := rest.dropWhile isSlash
  let isInAuthority (character : Char) : Bool :=
    !(isSlash character || character == '?' || character == '#')
  let authority := rest.takeWhile isInAuthority
  let rest := rest.dropWhile isInAuthority
  let (host, port) :=
    splitHost false (authority.reverse.takeWhile (· ≠ '@')).reverse
  let host ← host? spelling? host
  let port ← port? isSecure port
  let resource := rest.takeWhile (· ≠ '#')
  let path := resource.takeWhile (· ≠ '?')
  let encoded (escaped : List Char) : List Char → Option String
    | [] => none
    | _ :: characters =>
        some (String.ofList (Text.percentEncoded escaped characters))
  some {
    isSecure
    host
    port
    path := segments path
    query := encoded queryEscaped (resource.drop path.length)
    fragment := encoded fragmentEscaped (rest.drop resource.length) }

/-! ## Writing -/

/-- What a request names: the path and the query. -/
def target (url : Url) : String :=
  "/" ++ "/".intercalate url.path ++ (url.query.map ("?" ++ ·)).getD ""

/-- The address as text; the port of the scheme is left out. -/
def text (url : Url) : String :=
  schemeName url.isSecure ++ "://" ++ url.host
    ++ (if url.port = defaultPort url.isSecure then ""
      else ":" ++ Text.decimal url.port)
    ++ url.target ++ (url.fragment.map ("#" ++ ·)).getD ""

/-- The address with one more field in its query. -/
def withField (url : Url) (name value : String) : Url :=
  let field := name ++ "=" ++ value
  { url with query := match url.query with
      | none | some "" => some field
      | some query => some (query ++ "&" ++ field) }

end Url

end AgentPipeline
