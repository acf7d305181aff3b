import AgentPipeline.Store.Basic
import AgentPipeline.Store.FileTree

/-!
# Stores in a directory

Each document is a file of its own.  A write goes to a new file that then
takes the place of the old one, so a document is never half written.
-/

namespace AgentPipeline

/-- A store in a directory of a file tree. -/
structure DirectoryStore where
  tree : FileTree
  /-- The path of the directory as it is reported. -/
  path : String
  /-- The directory that the path leads to. -/
  directory : FilePath
deriving DecidableEq, Inhabited

namespace DirectoryStore

/-- The text of a path behind a directory; a text with a slash in front is a
path of its own. -/
def joinPath (directory name : String) : String :=
  if name.startsWith "/" then name
  else if directory.endsWith "/" ∨ directory.isEmpty then directory ++ name
  else directory ++ "/" ++ name

def fileName (key : String) : String := key ++ ".json"

def ioError (store : DirectoryStore) (key : String) (error : FileError) :
    StorageError :=
  .io (joinPath store.path (fileName key)) error.message

/-- Opens a store, making its directory if need be.  `origin` is the directory
from which a relative path leads. -/
def openAt (tree : FileTree) (origin : FilePath) (path : String) :
    Except StorageError DirectoryStore :=
  let start := if path.startsWith "/" then [] else origin
  match tree.makeDirectories start (FileTree.namesOf path) with
  | .ok (tree, directory) => .ok { tree, path, directory }
  | .error error => .error (.io path error.message)

def get (store : DirectoryStore) (key : String) :
    Except StorageError (Option String) :=
  let content : Except FileError String := do
    let path ← store.tree.resolve store.directory (fileName key)
    store.tree.readText path
  match content with
  | .ok text => .ok (some text)
  | .error .notFound => .ok none
  | .error error => .error (store.ioError key error)

def set (store : DirectoryStore) (key text : String) :
    Except StorageError Unit × DirectoryStore :=
  let written : Except FileError FileTree := do
    match store.tree.node? store.directory with
    | some .directory => .ok ()
    | _ => .error .notFound
    let path ← store.tree.resolve store.directory (fileName key)
    store.tree.writeFile path text.toUTF8
  match written with
  | .ok tree => (.ok (), { store with tree })
  | .error error => (.error (store.ioError key error), store)

def remove (store : DirectoryStore) (key : String) :
    Except StorageError Unit × DirectoryStore :=
  let removed : Except FileError FileTree := do
    let path ← store.tree.resolve store.directory (fileName key)
    store.tree.removeFile path
  match removed with
  | .ok tree => (.ok (), { store with tree })
  | .error .notFound => (.ok (), store)
  | .error error => (.error (store.ioError key error), store)

instance : KeyValueStore DirectoryStore where
  get := get
  set := set
  remove := remove

end DirectoryStore

end AgentPipeline
