import AgentPipeline.History.Store
import AgentPipeline.Model.Sync
import AgentPipeline.Poller.Session
import AgentPipeline.Proofs.Store.Directory
import AgentPipeline.Proofs.Text.Utf8
import AgentPipeline.Rehearsal.Service

/-!
# Opening over files of any content

What is kept between sessions is read from files, which may hold any bytes.
Content that is text never stands in the way: a document that cannot be decoded
counts as absent.  A file that is not text cannot be read at all, and nothing
is opened over it.  Main statement: `opens_over_files`.
-/

namespace AgentPipeline

/-! ## Names of files -/

/-- The name of a file in a directory, which leads nowhere else. -/
structure FileTree.IsPlainName (name : String) : Prop where
  noSlash : '/' ∉ name.toList
  noNul : name.contains '\x00' = false
  notHere : name ≠ "" ∧ name ≠ "."
  notAbove : name ≠ ".."
  fits : name.utf8ByteSize ≤ longestName

namespace FileTree

theorem namesOf_eq_singleton {name : String} (noSlash : '/' ∉ name.toList) :
    namesOf name = [name] := by
  have none : ∀ character ∈ name.toList, decide (character = '/') = false := by
    intro character isInside
    rw [decide_eq_false_iff_not]
    rintro rfl
    exact noSlash isInside
  rw [namesOf, Text.piecesBetween_eq_splitOnP, List.splitOnP_eq_singleton none,
    List.map_singleton, String.ofList_toList]

/-- A plain name leads to the file of that name. -/
theorem resolve_of_isPlainName {tree : FileTree} {directory : FilePath}
    {name : String} (plain : IsPlainName name)
    (isDirectory : tree.node? directory = some .directory) :
    tree.resolve directory name = .ok (directory ++ [name]) := by
  have noLead : name.startsWith "/" = false := by
    rw [String.startsWith_string_eq_false_iff]
    intro lead
    exact plain.noSlash (lead.subset (by decide))
  have isShort : ¬longestName < name.utf8ByteSize :=
    Nat.not_lt.mpr plain.fits
  rw [resolve, noLead, namesOf_eq_singleton plain.noSlash]
  simp [walk, isDirectory, plain.noNul, plain.notHere, plain.notAbove, isShort]

theorem isPlainName_fileName (key : StoreKey) :
    IsPlainName (DirectoryStore.fileName key.name) where
  noSlash := by cases key <;> decide
  noNul := by
    rw [String.contains_char_eq]
    cases key <;> decide
  notHere := by cases key <;> decide
  notAbove := by cases key <;> decide
  fits := by cases key <;> decide

end FileTree

/-! ## Documents in files -/

namespace DirectoryStore

/-- In the directory there are regular files with these contents, and no others
under the keys. -/
structure HasFiles (store : DirectoryStore)
    (contents : StoreKey → Option ByteArray) : Prop where
  isDirectory : store.tree.node? store.directory = some .directory
  node (key : StoreKey) :
    store.tree.node? (store.directory ++ [fileName key.name]) =
      (contents key).map .file

/-- The error of a document that is not text. -/
def notText (store : DirectoryStore) (key : StoreKey) : StorageError :=
  store.ioError key.name .notText

variable {store : DirectoryStore} {contents : StoreKey → Option ByteArray}
  (files : store.HasFiles contents) (key : StoreKey)
include files

theorem resolve_eq_ok :
    store.tree.resolve store.directory (fileName key.name) =
      .ok (store.directory ++ [fileName key.name]) :=
  FileTree.resolve_of_isPlainName (FileTree.isPlainName_fileName key)
    files.isDirectory

theorem get_of_absent (absent : contents key = none) :
    KeyValueStore.get store key.name = .ok none := by
  have node := files.node key
  rw [absent, Option.map_none] at node
  simp only [KeyValueStore.get, get, resolve_eq_ok files key, bind,
    Except.bind, FileTree.readText, FileTree.readFile, node]

theorem get_of_text {text : String}
    (isText : contents key = some text.toUTF8) :
    KeyValueStore.get store key.name = .ok (some text) := by
  have node := files.node key
  rw [isText, Option.map_some] at node
  simp only [KeyValueStore.get, get, resolve_eq_ok files key, bind,
    Except.bind, FileTree.readText_of_text node]

theorem get_of_notText {bytes : ByteArray}
    (isContent : contents key = some bytes)
    (invalid : ¬bytes.IsValidUTF8) :
    KeyValueStore.get store key.name = .error (store.notText key) := by
  have node := files.node key
  rw [isContent, Option.map_some] at node
  simp only [KeyValueStore.get, get, resolve_eq_ok files key, bind,
    Except.bind, FileTree.readText, FileTree.readFile, node,
    String.fromUTF8?, dif_neg invalid, notText]

end DirectoryStore

/-! ## Opening -/

/-- Opening over a document that may have any content: what is not there and
what cannot be decoded are used alike, as absent, and only content that is not
text is in the way. -/
structure OpensOver {α β : Type} (decoder : Decoder α)
    (content : Option ByteArray) (notText : StorageError)
    (use : Option α → β) (opened : Except StorageError β) : Prop where
  isOk_iff : opened.isOk ↔ ∀ bytes ∈ content, bytes.IsValidUTF8
  absent : content = none → opened = .ok (use none)
  text (text : String) : content = some text.toUTF8 →
    opened = .ok (use (decoder.parse? text))
  notText : opened.isOk = false → opened = .error notText

theorem opensOver_read {α β : Type} {store : DirectoryStore}
    {contents : StoreKey → Option ByteArray} (files : store.HasFiles contents)
    (key : StoreKey) (decoder : Decoder α) (use : Option α → β) :
    OpensOver decoder (contents key) (store.notText key) use
      ((KeyValueStore.read decoder store key.name).map use) := by
  unfold KeyValueStore.read
  rcases isContent : contents key with _ | bytes
  · have got := store.get_of_absent files key isContent
    rw [got]
    exact ⟨by simp [Except.map, Except.isOk, Except.toBool], fun _ => rfl,
      nofun, nofun⟩
  by_cases valid : bytes.IsValidUTF8
  · obtain ⟨text, rfl⟩ : ∃ text : String, bytes = text.toUTF8 :=
      ⟨String.fromUTF8 bytes valid, rfl⟩
    have got := store.get_of_text files key isContent
    rw [got]
    refine ⟨?_, nofun, ?_, nofun⟩
    · simp [Except.map, Except.isOk, Except.toBool, text.isValidUTF8]
    · rintro other same
      have same : text = other := by
        simpa [String.toUTF8_eq_toByteArray, String.toByteArray_inj]
          using same
      rw [same]
      rfl
  · have got := store.get_of_notText files key isContent valid
    rw [got]
    refine ⟨?_, nofun, ?_, fun _ => rfl⟩
    · simp [Except.map, Except.isOk, Except.toBool, valid]
    · rintro text same
      obtain rfl := Option.some.inj same
      exact absurd text.isValidUTF8 valid

/-- Whatever the files hold, each of the four documents is opened exactly if it
is text, and one that cannot be decoded is taken as absent. -/
theorem opens_over_files {ς : Type} [AgentService ς] {store : DirectoryStore}
    {contents : StoreKey → Option ByteArray} (files : store.HasFiles contents)
    (capacity : Nat) (service : ς) (registry : ModelRegistry)
    (supply : Supply) (interval clock : Nat) :
    OpensOver History.itemsDecoder (contents .history)
      (store.notText .history)
      (fun found => ⟨store, capacity, (found.getD []).take capacity⟩)
      (History.load store capacity) ∧
    OpensOver CustomModel.listDecoder (contents .customModels)
      (store.notText .customModels)
      (fun found =>
        let (catalog, connectivity, offered) :=
          (ModelRegistry.discover service).1
        ⟨catalog, CustomModel.merge (found.getD []) offered, connectivity⟩)
      (ModelRegistry.load store service).1 ∧
    OpensOver Decoder.text (contents .selectedModel)
      (store.notText .selectedModel)
      (fun found => found <|> registry.catalog.defaultModel)
      (registry.selectedDefault store) ∧
    OpensOver Dashboard.decoder (contents .dashboard)
      (store.notText .dashboard)
      (fun found => ⟨store, supply, interval, clock, found.getD .empty, .off,
        false⟩)
      (Poller.openPassive store supply interval clock) := by
  refine ⟨?_, ?_, opensOver_read files .selectedModel _ _, ?_⟩
  · exact opensOver_read files .history _ _
  · have opens := opensOver_read files .customModels CustomModel.listDecoder
      (fun found =>
        let (catalog, connectivity, offered) :=
          (ModelRegistry.discover service).1
        (⟨catalog, CustomModel.merge (found.getD []) offered, connectivity⟩ :
          ModelRegistry))
    suffices same : (ModelRegistry.load store service).1 = _ by
      rw [same]
      exact opens
    unfold ModelRegistry.load ModelRegistry.storedModels
    cases KeyValueStore.read CustomModel.listDecoder store
        StoreKey.customModels.name <;> rfl
  · exact opensOver_read files .dashboard _ _

/-- What the files of a spoiled directory hold. -/
def spoiledContents : StoreKey → Option ByteArray
  | .selectedModel => some "\"model-A\"".toUTF8
  | .customModels => none
  | .dashboard => some "[1".toUTF8
  | .history => some ⟨#[0xFF]⟩

def spoiledDirectory : DirectoryStore where
  tree := ⟨.ofList [("state", .directory),
    ("state/selected_model.json", .file "\"model-A\"".toUTF8),
    ("state/evaluator_dashboard.json", .file "[1".toUTF8),
    ("state/pipeline_history.json", .file ⟨#[0xFF]⟩)]⟩
  path := "state"
  directory := ["state"]

/-- The broken dashboard counts as absent; the history cannot be opened. -/
theorem opens_over_files_spoiled :
    spoiledDirectory.HasFiles spoiledContents ∧
    History.load spoiledDirectory 50 =
      .error (.io "state/pipeline_history.json"
        "stream did not contain valid UTF-8") ∧
    (ModelRegistry.mk .empty [] .online).selectedDefault spoiledDirectory =
      .ok (some "model-A") ∧
    ∃ poller, Poller.openPassive spoiledDirectory ⟨0, 0, ⟨0, 0⟩⟩ 600 0 =
      .ok poller ∧ poller.dashboard = .empty := by
  have files : spoiledDirectory.HasFiles spoiledContents :=
    ⟨by decide, fun key => by cases key <;> decide⟩
  obtain ⟨history, -, selected, dashboard⟩ :=
    opens_over_files files 50 ScriptedService.new ⟨.empty, [], .online⟩
      ⟨0, 0, ⟨0, 0⟩⟩ 600 0
  refine ⟨files, ?_, ?_, _, dashboard.text "[1" rfl, ?_⟩
  · have reported : spoiledDirectory.notText .history =
        .io "state/pipeline_history.json"
          "stream did not contain valid UTF-8" := by decide +kernel
    rw [← reported]
    apply history.notText
    rw [Bool.eq_false_iff, Ne, history.isOk_iff]
    intro areText
    exact absurd (areText ⟨#[0xFF]⟩ rfl) (by decide)
  · have isRead : Decoder.text.parse? "\"model-A\"" = some "model-A" := by
      decide +kernel
    rw [selected.text "\"model-A\"" rfl, isRead]
    rfl
  · decide +kernel

end AgentPipeline
