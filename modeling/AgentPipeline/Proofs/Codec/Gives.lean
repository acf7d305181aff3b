import AgentPipeline.Proofs.Codec.Restore
import AgentPipeline.Proofs.Json.Payload
import AgentPipeline.Proofs.Timestamp.Parse

/-!
# What decoders give

A record carries payloads and moments of the calendar.  They are restored from
their text under some conditions, and what a decoder gives meets these
conditions: a payload is never `null`, which would be no payload, and is held
in canonical form.
-/

namespace AgentPipeline

/-- A payload as a record carries it. -/
structure Json.IsPayload (value : Json) : Prop where
  given : value ≠ .null
  isHeld : value.IsHeld

/-- The floating-point numbers in a payload, if there is one. -/
def Json.optionalFloats (slot : Option Json) : List Double :=
  slot.toList.flatMap Json.floats

namespace Decoder

variable {α β : Type} {limit : Nat}

/-! ## Restoring -/

theorem double_restores (limit : Nat) {value : Double}
    (readsBack : value.ReadsBack) :
    double.Restores limit (.double value) value := by
  obtain ⟨isFinite, readsBack⟩ := readsBack
  obtain ⟨parts, isParts, isNumber⟩ := Option.bind_eq_some_iff.mp readsBack
  simp [Restores, Json.double, isFinite, Json.reread, isParts, isNumber,
    double]

theorem payload_restores {value : Json} (isHeld : value.IsHeld)
    (readsBack : ∀ number ∈ value.floats, number.ReadsBack)
    (nests : value.Nests limit) : payload.Restores limit value value := by
  have read := Json.reread_bind_value? (isHeld.readsBack readsBack) nests
  rwa [isHeld.isSorted] at read

theorem optionalPayload_restores {slot : Option Json}
    (isPayload : ∀ value, slot = some value → value.IsPayload)
    (readsBack : ∀ number ∈ Json.optionalFloats slot, number.ReadsBack)
    (nests : ∀ value, slot = some value → value.Nests limit) :
    SlotRestores (absentOr payload) limit slot slot := by
  cases slot with
  | none => exact absentOr_none payload limit
  | some value =>
      have restores := payload_restores (isPayload value rfl).isHeld
        (by simpa [Json.optionalFloats] using readsBack) (nests value rfl)
      exact restores.absentOr (isPayload value rfl).given

/-! ## Giving -/

/-- Of a document with integers of 64 bits the decoder gives only values with
a property. -/
def Gives (decoder : Decoder α) (limit : Nat) (property : α → Prop) : Prop :=
  ∀ ⦃document value⦄, document.IsHeld →
    decoder limit document = some value → property value

/-- The same for a field, which may be absent. -/
def SlotGives (read : Nat → Option Document → Option α) (limit : Nat)
    (property : α → Prop) : Prop :=
  ∀ ⦃slot value⦄, (∀ document, slot = some document → document.IsHeld) →
    read limit slot = some value → property value

/-- What a whole text is decoded as has the property. -/
theorem Gives.of_parse? {decoder : Decoder α} {property : α → Prop}
    (gives : decoder.Gives Json.depthLimit property) {text : String}
    {value : α} (parsed : decoder.parse? text = some value) :
    property value := by
  obtain ⟨document, read, decoded⟩ := Option.bind_eq_some_iff.mp parsed
  exact gives (Document.isHeld_of_parse? read) decoded

theorem timestamp_gives :
    Timestamp.decoder.Gives limit Timestamp.IsMoment := by
  intro document moment _ decoded
  obtain ⟨text, -, read⟩ := Option.bind_eq_some_iff.mp decoded
  exact Timestamp.isMoment_of_parse? read

/-! ## Fields -/

theorem Gives.required {decoder : Decoder α} {property : α → Prop}
    (gives : decoder.Gives limit property) :
    SlotGives (required decoder) limit property := by
  intro slot value isHeld read
  obtain ⟨document, isSlot, decoded⟩ := Option.bind_eq_some_iff.mp read
  exact gives (isHeld document isSlot) decoded

theorem Gives.defaulting {decoder : Decoder α} {property : α → Prop}
    (gives : decoder.Gives limit property) {default : α}
    (standard : property default) :
    SlotGives (defaulting default decoder) limit property := by
  intro slot value isHeld read
  cases slot with
  | none =>
      cases read
      exact standard
  | some document => exact gives (isHeld document rfl) read

/-- A value that is given is not `null`. -/
private theorem exists_of_absentOr {decoder : Decoder α}
    {slot : Option Document} {value : α}
    (read : absentOr decoder limit slot = some (some value)) :
    ∃ document, slot = some document ∧ document ≠ .null ∧
      decoder limit document = some value := by
  cases slot with
  | none => cases read
  | some document =>
      simp only [absentOr, Decoder.defaulting] at read
      unfold optional at read
      split at read
      · cases read
      next notNull =>
        obtain ⟨_, decoded, same⟩ := Option.map_eq_some_iff.mp read
        cases same
        exact ⟨document, rfl, notNull, decoded⟩

theorem Gives.absentOr {decoder : Decoder α} {property : α → Prop}
    (gives : decoder.Gives limit property) :
    SlotGives (absentOr decoder) limit fun found =>
      ∀ value, found = some value → property value := by
  rintro slot _ isHeld read value rfl
  obtain ⟨document, isSlot, -, decoded⟩ := exists_of_absentOr read
  exact gives (isHeld document isSlot) decoded

theorem optionalPayload_gives :
    SlotGives (absentOr payload) limit fun found =>
      ∀ value, found = some value →
        value.IsPayload ∧ value.Nests limit := by
  rintro slot _ isHeld read value rfl
  obtain ⟨document, isSlot, notNull, decoded⟩ := exists_of_absentOr read
  refine ⟨⟨?_, (isHeld document isSlot).value? decoded⟩,
    Document.nests_of_value? decoded⟩
  rintro rfl
  cases document with
  | null => exact notNull rfl
  | bool _ => cases decoded
  | number _ | string _ =>
      obtain ⟨_, -, same⟩ := Option.map_eq_some_iff.mp decoded
      cases same
  | array _ | object _ =>
      cases limit with
      | zero => cases decoded
      | succ inner =>
          obtain ⟨_, -, same⟩ := Option.map_eq_some_iff.mp decoded
          cases same

/-! ## Records and lists -/

/-- The documents in the slots of a record have only integers of 64 bits. -/
def SlotsHeld (slots : List (Option Document)) : Prop :=
  ∀ slot ∈ slots, ∀ document, slot = some document → document.IsHeld

private theorem slotsHeld_of_members {fields : FieldNames}
    {members : List (Spelling × Document)}
    (isHeld : ∀ member ∈ members, member.2.IsHeld)
    {start slots : List (Option Document)} (startHeld : SlotsHeld start)
    (entered : members.foldlM (enterMember fields) start = some slots) :
    SlotsHeld slots := by
  induction members generalizing start with
  | nil =>
      cases entered
      exact startHeld
  | cons member members ih =>
      rw [List.forall_mem_cons] at isHeld
      rw [List.foldlM_cons] at entered
      obtain ⟨next, isNext, entered⟩ := Option.bind_eq_some_iff.mp entered
      refine ih isHeld.2 ?_ entered
      simp only [enterMember, Option.bind_eq_bind,
        Option.bind_eq_some_iff] at isNext
      obtain ⟨name, -, isNext⟩ := isNext
      split at isNext
      · cases isNext
        exact startHeld
      · split at isNext
        · cases isNext
          rintro slot isSlot document rfl
          rcases List.mem_or_eq_of_mem_set isSlot with old | new
          · exact startHeld _ old document rfl
          · cases new
            exact isHeld.1
        · cases isNext

private theorem slotsHeld_of_slotsOfItems {fields : FieldNames}
    {items : List Document} (isHeld : ∀ item ∈ items, item.IsHeld)
    {slots : List (Option Document)}
    (entered : slotsOfItems fields items = some slots) :
    SlotsHeld slots := by
  unfold slotsOfItems at entered
  split at entered
  · cases entered
    rintro slot isSlot document rfl
    rcases List.mem_append.mp isSlot with isItem | isRest
    · obtain ⟨item, isItem, same⟩ := List.mem_map.mp isItem
      cases same
      exact isHeld document isItem
    · cases List.eq_of_mem_replicate isRest
  · cases entered

theorem slotsHeld_of_slotsOfMembers {fields : FieldNames}
    {members : List (Spelling × Document)}
    (isHeld : ∀ member ∈ members, member.2.IsHeld)
    {slots : List (Option Document)}
    (entered : slotsOfMembers fields members = some slots) :
    SlotsHeld slots := by
  refine slotsHeld_of_members isHeld ?_ entered
  rintro slot isSlot document rfl
  obtain ⟨_, -, same⟩ := List.mem_map.mp isSlot
  cases same

/-- A record has the property if it is built so from its fields. -/
theorem record_gives {fields : FieldNames}
    {build : Nat → List (Option Document) → Option α} {property : α → Prop}
    (built : ∀ slots value, SlotsHeld slots →
      build limit slots = some value → property value) :
    (record fields build).Gives (limit + 1) property := by
  intro document value isHeld decoded
  cases document with
  | object members =>
      obtain ⟨slots, entered, isValue⟩ := Option.bind_eq_some_iff.mp decoded
      exact built slots value
        (slotsHeld_of_slotsOfMembers (Document.isHeld_object.mp isHeld)
          entered) isValue
  | array items =>
      obtain ⟨slots, entered, isValue⟩ := Option.bind_eq_some_iff.mp decoded
      exact built slots value
        (slotsHeld_of_slotsOfItems (Document.isHeld_array.mp isHeld) entered)
        isValue
  | null | bool _ | number _ | string _ => cases decoded

theorem list_gives {decoder : Decoder α} {property : α → Prop}
    (gives : decoder.Gives limit property) :
    (list decoder).Gives (limit + 1) fun values =>
      ∀ value ∈ values, property value := by
  intro document values isHeld decoded
  cases document with
  | array items =>
      have itemsHeld := Document.isHeld_array.mp isHeld
      clear isHeld
      simp only [list] at decoded
      induction items generalizing values with
      | nil =>
          cases decoded
          simp
      | cons item items ih =>
          rw [List.forall_mem_cons] at itemsHeld
          rw [List.mapM_cons] at decoded
          obtain ⟨first, isFirst, rest⟩ := Option.bind_eq_some_iff.mp decoded
          obtain ⟨others, areOthers, same⟩ :=
            Option.bind_eq_some_iff.mp rest
          cases same
          exact List.forall_mem_cons.mpr
            ⟨gives itemsHeld.1 isFirst, ih areOthers itemsHeld.2⟩
  | null | bool _ | number _ | string _ | object _ => cases decoded

end Decoder

theorem Double.ReadsBack.reread? {number : Double}
    (readsBack : number.ReadsBack) : number.reread? = some number :=
  Decoder.double_restores 0 readsBack

end AgentPipeline
