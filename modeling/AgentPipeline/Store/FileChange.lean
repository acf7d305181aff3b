import AgentPipeline.Store.FileTree

/-!
# Changes of file trees

What has to be done to a file system that looks like one tree to make it look
like another.
-/

namespace AgentPipeline

/-- A change below the root; paths are texts without the leading slash. -/
inductive FileChange where
  | makeDirectory (path : String)
  | writeFile (path : String) (content : ByteArray)
  | remove (path : String)

namespace FileTree

def changeTo (path : String) : FileNode → FileChange
  | .file content => .writeFile path content
  | .directory => .makeDirectory path

/-- The changes that lead from one tree to another: first what is new, every
directory before what it holds, then what is gone. -/
def changes (before after : FileTree) : List FileChange :=
  (after.nodes.entries.filterMap fun entry =>
    if before.nodes.find? entry.1 = some entry.2 then none
    else some (changeTo entry.1 entry.2))
  ++ before.nodes.entries.filterMap fun entry =>
    if (after.nodes.find? entry.1).isNone then some (.remove entry.1)
    else none

end FileTree

end AgentPipeline
