import Mathlib.Tactic.SplitIfs
import AgentPipeline.Proofs.Store.Durable
import AgentPipeline.Store.Directory

/-!
# Directories are durable

A write to a directory puts a file in the place that the name of its key leads
to, where it is found by the same way, and a write that fails leaves every file
as it is.  Main statement: `DirectoryStore.durable`.
-/

namespace AgentPipeline

namespace FileTree

variable {tree : FileTree} {path : FilePath} {content : ByteArray}

/-- A file does not take the place of a directory. -/
theorem node?_insert_of_directory (notDirectory : tree.node? path ≠
      some .directory) {directory : FilePath}
    (isDirectory : tree.node? directory = some .directory) :
    (tree.insert path (.file content)).node? directory = some .directory := by
  unfold node? at notDirectory isDirectory ⊢
  split
  · rfl
  next inner =>
    rw [if_neg inner] at isDirectory
    have different : path.key ≠ directory.key := by
      intro same
      refine notDirectory ?_
      split
      · rfl
      · rw [same, isDirectory]
    rw [insert, SortedMap.find?_insert_of_ne different, isDirectory]

/-- A way goes through directories only, so it leads where it led. -/
theorem walk_insert (notDirectory : tree.node? path ≠ some .directory)
    {start reached : FilePath} {names : List String}
    (walked : tree.walk start names = .ok reached) :
    (tree.insert path (.file content)).walk start names = .ok reached := by
  induction names generalizing start with
  | nil => exact walked
  | cons name rest ih =>
      have isDirectory : tree.node? start = some .directory := by
        rw [walk] at walked
        split at walked
        · cases walked
        · cases walked
        · assumption
      have stillDirectory : (tree.insert path (.file content)).node? start =
          some .directory := node?_insert_of_directory notDirectory isDirectory
      rw [walk, isDirectory] at walked
      rw [walk, stillDirectory]
      dsimp only at walked ⊢
      split_ifs at walked ⊢
      · exact ih walked
      · exact ih walked
      · exact ih walked

theorem resolve_insert (notDirectory : tree.node? path ≠ some .directory)
    {directory reached : FilePath} {text : String}
    (resolved : tree.resolve directory text = .ok reached) :
    (tree.insert path (.file content)).resolve directory text =
      .ok reached := by
  unfold resolve at resolved ⊢
  split_ifs at resolved ⊢
  · exact walk_insert notDirectory resolved
  · exact walk_insert notDirectory resolved

theorem writeFile_eq_ok {after : FileTree}
    (written : tree.writeFile path content = .ok after) :
    tree.node? path ≠ some .directory ∧
      after = tree.insert path (.file content) := by
  unfold writeFile at written
  split at written
  · cases written
  next notDirectory =>
    split at written
    · cases written
    · cases written
    · exact ⟨notDirectory, (Except.ok.inj written).symm⟩

theorem node?_insert_self (notDirectory : tree.node? path ≠ some .directory) :
    (tree.insert path (.file content)).node? path = some (.file content) := by
  unfold node? at notDirectory ⊢
  split
  next isRoot => exact absurd (if_pos isRoot) notDirectory
  · rw [insert, SortedMap.find?_insert_self]

theorem readText_of_text {text : String}
    (isFile : tree.node? path = some (.file text.toUTF8)) :
    tree.readText path = .ok text := by
  have isText : String.fromUTF8? text.toUTF8 = some text := by
    rw [String.fromUTF8?, String.toUTF8_eq_toByteArray,
      dif_pos text.isValidUTF8]
    rfl
  simp only [readText, readFile, isFile, bind, Except.bind, isText]

end FileTree

namespace DirectoryStore

/-- A write puts a file where the key leads to, or it fails and changes
nothing. -/
theorem set_cases (store : DirectoryStore) (key text : String) :
    (∃ path, store.tree.resolve store.directory (fileName key) = .ok path ∧
      store.tree.node? path ≠ some .directory ∧
      store.set key text = (.ok (), { store with
        tree := store.tree.insert path (.file text.toUTF8) })) ∨
    ∃ error, store.set key text = (.error error, store) := by
  unfold set
  dsimp only
  split
  next tree isWritten =>
    refine .inl ?_
    cases resolved : store.tree.resolve store.directory (fileName key) with
    | error error =>
        simp only [resolved, bind, Except.bind] at isWritten
        split at isWritten <;> cases isWritten
    | ok path =>
        have written : store.tree.writeFile path text.toUTF8 = .ok tree := by
          simp only [resolved, bind, Except.bind] at isWritten
          split at isWritten
          · exact isWritten
          · cases isWritten
        obtain ⟨notDirectory, rfl⟩ := FileTree.writeFile_eq_ok written
        exact ⟨path, rfl, notDirectory, rfl⟩
  next error _ => exact .inr ⟨_, rfl⟩

/-- What is found under a key of a directory, where a document that cannot be
read counts as absent. -/
def text? (store : DirectoryStore) (key : String) : Option String :=
  match store.get key with
  | .ok found => found
  | .error _ => none

theorem durable : KeyValueStore.Durable text? where
  get_ok {store key found} got := by
    have isFound : store.get key = .ok found := got
    rw [text?, isFound]
  set_ok {store key text} done := by
    change (store.set key text).1 = .ok () at done
    change text? (store.set key text).2 key = some text
    rcases store.set_cases key text with
      ⟨path, resolved, notDirectory, isSet⟩ | ⟨error, isSet⟩
    · have isFile : (store.tree.insert path (.file text.toUTF8)).node? path =
          some (.file text.toUTF8) := FileTree.node?_insert_self notDirectory
      rw [isSet, text?, get, FileTree.resolve_insert notDirectory resolved]
      simp only [bind, Except.bind, FileTree.readText_of_text isFile]
    · rw [isSet] at done
      cases done
  set_error {store key text error} failed := by
    change (store.set key text).1 = .error error at failed
    change text? (store.set key text).2 = text? store
    rcases store.set_cases key text with ⟨_, _, _, isSet⟩ | ⟨_, isSet⟩
    · rw [isSet] at failed
      cases failed
    · rw [isSet]

end DirectoryStore

end AgentPipeline
