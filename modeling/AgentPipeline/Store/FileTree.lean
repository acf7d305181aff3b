import AgentPipeline.SortedMap
import AgentPipeline.Text.Utf8

/-!
# File trees

A file system as a value: files and directories by their absolute paths.  A
path is resolved name by name, where every name but the last has to be a
directory.
-/

namespace AgentPipeline

/-- Why an operation on files failed. -/
inductive FileError where
  | notFound
  | alreadyExists
  | notADirectory
  | isADirectory
  | nameTooLong
  /-- The path holds a character that no name can hold. -/
  | invalidPath
  | notText
deriving DecidableEq, Inhabited, Repr

namespace FileError

/-- How the error is reported. -/
def message : FileError → String
  | .notFound => "No such file or directory (os error 2)"
  | .alreadyExists => "File exists (os error 17)"
  | .notADirectory => "Not a directory (os error 20)"
  | .isADirectory => "Is a directory (os error 21)"
  | .nameTooLong => "File name too long (os error 36)"
  | .invalidPath => "file name contained an unexpected NUL byte"
  | .notText => "stream did not contain valid UTF-8"

end FileError

/-- What is found under a path. -/
inductive FileNode where
  | file (content : ByteArray)
  | directory
deriving Inhabited

instance : DecidableEq FileNode
  | .file left, .file right =>
      match ByteArray.instDecidableEq left right with
      | .isTrue same => .isTrue (congrArg FileNode.file same)
      | .isFalse differ => .isFalse fun same => differ (FileNode.file.inj same)
  | .directory, .directory => .isTrue rfl
  | .file _, .directory => .isFalse nofun
  | .directory, .file _ => .isFalse nofun

/-- An absolute path by its names. -/
abbrev FilePath := List String

/-- The text of a path without its leading slash, which orders paths. -/
def FilePath.key (path : FilePath) : String :=
  "/".intercalate path

/-- The files and directories of a file system; the root is always there. -/
structure FileTree where
  nodes : SortedMap String FileNode
deriving DecidableEq, Inhabited

namespace FileTree

/-- The greatest number of bytes in a name. -/
def longestName : Nat := 255

def empty : FileTree := ⟨.empty⟩

/-- What is found under a resolved path. -/
def node? (tree : FileTree) (path : FilePath) : Option FileNode :=
  if path = [] then some .directory else tree.nodes.find? path.key

def namesOf (text : String) : List String :=
  (Text.piecesBetween (· = '/') text.toList).map String.ofList

/-- Goes from a directory along names to the path they lead to; only the last
may be missing. -/
def walk (tree : FileTree) : FilePath → List String → Except FileError FilePath
  | path, [] => .ok path
  | path, name :: rest =>
      match tree.node? path with
      | none => .error .notFound
      | some (.file _) => .error .notADirectory
      | some .directory =>
          if name.contains '\x00' then .error .invalidPath
          else if name = "" ∨ name = "." then tree.walk path rest
          else if name = ".." then tree.walk path.dropLast rest
          else if longestName < name.utf8ByteSize then .error .nameTooLong
          else tree.walk (path ++ [name]) rest

/-- The path that a text leads to from a directory; a text with a slash in
front begins at the root. -/
def resolve (tree : FileTree) (directory : FilePath) (text : String) :
    Except FileError FilePath :=
  if text.startsWith "/" then tree.walk [] (namesOf text)
  else tree.walk directory (namesOf text)

def readFile (tree : FileTree) (path : FilePath) :
    Except FileError ByteArray :=
  match tree.node? path with
  | none => .error .notFound
  | some .directory => .error .isADirectory
  | some (.file content) => .ok content

def readText (tree : FileTree) (path : FilePath) :
    Except FileError String := do
  let content ← tree.readFile path
  match String.fromUTF8? content with
  | some text => .ok text
  | none => .error .notText

def insert (tree : FileTree) (path : FilePath) (node : FileNode) : FileTree :=
  ⟨tree.nodes.insert path.key node⟩

/-- Writes a file in a directory that exists. -/
def writeFile (tree : FileTree) (path : FilePath) (content : ByteArray) :
    Except FileError FileTree :=
  match tree.node? path with
  | some .directory => .error .isADirectory
  | _ =>
      match tree.node? path.dropLast with
      | none => .error .notFound
      | some (.file _) => .error .notADirectory
      | some .directory => .ok (tree.insert path (.file content))

def removeFile (tree : FileTree) (path : FilePath) :
    Except FileError FileTree :=
  match tree.node? path with
  | none => .error .notFound
  | some .directory => .error .isADirectory
  | some (.file _) => .ok ⟨tree.nodes.erase path.key⟩

/-- Makes the directories of the names that are missing below a path. -/
def makeDirectories (tree : FileTree) :
    FilePath → List String → Except FileError (FileTree × FilePath)
  | path, [] => .ok (tree, path)
  | path, name :: rest =>
      if name.contains '\x00' then .error .invalidPath
      else if name = "" ∨ name = "." then tree.makeDirectories path rest
      else if name = ".." then tree.makeDirectories path.dropLast rest
      else if longestName < name.utf8ByteSize then .error .nameTooLong
      else
        let next := path ++ [name]
        match tree.node? next with
        | some (.file _) =>
            if rest.all fun later => later = "" then .error .alreadyExists
            else .error .notADirectory
        | some .directory => tree.makeDirectories next rest
        | none => (tree.insert next .directory).makeDirectories next rest
  termination_by _ names => names.length

/-- What lies below a directory, with the text of the path from there, in the
order of these texts. -/
def contents (tree : FileTree) (directory : FilePath) :
    List (String × FileNode) :=
  let lead := directory.key ++ "/"
  tree.nodes.entries.filterMap fun entry =>
    if entry.1.startsWith lead then
      some ((entry.1.drop lead.length).toString, entry.2)
    else none

/-- The tree without a path and all that lies below it. -/
def without (tree : FileTree) (path : FilePath) : FileTree :=
  ⟨SortedMap.ofList (tree.nodes.entries.filter fun entry =>
    !(entry.1 == path.key || entry.1.startsWith (path.key ++ "/")))⟩

end FileTree

end AgentPipeline
