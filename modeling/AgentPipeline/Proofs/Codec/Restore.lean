import AgentPipeline.Codec.Basic
import AgentPipeline.Proofs.Json.Reread
import AgentPipeline.Proofs.SortedMap.Merge
import AgentPipeline.Proofs.Timestamp.Print

/-!
# Restoring values from their text

What a decoder makes of a printed value, part by part: texts, numbers, maps
and the fields of records.
-/

namespace AgentPipeline

namespace Decoder

variable {α β : Type}

/-- Inside a number of brackets the decoder makes a value of what was
printed. -/
def Restores (decoder : Decoder α) (limit : Nat) (printed : Json)
    (value : α) : Prop :=
  printed.reread.bind (decoder limit) = some value

theorem Restores.exists_document
    {decoder : Decoder α} {limit : Nat} {printed : Json} {value : α}
    (restores : decoder.Restores limit printed value) :
    ∃ document, printed.reread = some document ∧
      decoder limit document = some value :=
  Option.bind_eq_some_iff.mp restores

/-- A whole text that the decoder restores. -/
theorem Restores.parse?
    {decoder : Decoder α} {printed : Json} {value : α}
    (restores : decoder.Restores Json.depthLimit printed value) :
    decoder.parse? printed.text = some value := by
  rw [Decoder.parse?, Json.parse?_text]
  exact restores

/-! ## Simple values -/

theorem text_restores (limit : Nat) (value : String) :
    text.Restores limit (.string value) value := rfl

theorem flag_restores (limit : Nat) (value : Bool) :
    flag.Restores limit (.bool value) value := rfl

theorem reread_nat {value : Nat} (bounded : value < UInt64.size) :
    (Json.nat value).reread = some (.number (some (.integer value))) := by
  simp [Json.nat, Json.reread, Json.numberParts?_nat,
    Json.NumberParts.value?_nat bounded]

theorem word64_restores (limit : Nat) (value : UInt64) :
    word64.Restores limit (.word64 value) value := by
  have bounded : value.toNat < UInt64.size := value.toNat_lt_size
  simp only [Restores, Json.word64, reread_nat bounded, Option.bind_some,
    word64, natural]
  rw [if_pos bounded, Option.map_some, UInt64.ofNat_toNat]

theorem word32_restores (limit : Nat) (value : UInt32) :
    word32.Restores limit (.word32 value) value := by
  have bounded : value.toNat < UInt32.size := value.toNat_lt_size
  have wide : value.toNat < UInt64.size :=
    Nat.lt_trans bounded (by decide)
  simp only [Restores, Json.word32, reread_nat wide, Option.bind_some,
    word32, natural]
  rw [if_pos bounded, Option.map_some, UInt32.ofNat_toNat]

theorem timestamp_restores (limit : Nat) {moment : Timestamp}
    (isMoment : moment.IsMoment) :
    Timestamp.decoder.Restores limit moment.encode moment := by
  simp only [Restores, Timestamp.encode, Json.reread, Option.bind_some,
    Timestamp.decoder, text, Json.spelling]
  exact Timestamp.parse?_print_of_isMoment isMoment

/-! ## Lists -/

/-- The items of an array are read back one by one. -/
theorem list_reread {decoder : Decoder α} {limit : Nat}
    {encode : α → Json} {reread? : α → Option α} {values : List α}
    (each : ∀ value ∈ values,
      (encode value).reread.bind (decoder limit) = reread? value) :
    (Json.array (values.map encode)).reread.bind
        (list decoder (limit + 1)) =
      values.mapM reread? := by
  have read : (Json.rereadItems (values.map encode)).bind
      (List.mapM (decoder limit)) = values.mapM reread? := by
    induction values with
    | nil => rfl
    | cons value values ih =>
        rw [List.forall_mem_cons] at each
        rw [List.mapM_cons, ← each.1, ← ih each.2, List.map_cons,
          Json.rereadItems]
        cases (encode value).reread with
        | none => rfl
        | some document =>
        cases Json.rereadItems (values.map encode) with
        | none => simp
        | some documents => simp
  rw [← read, Json.reread]
  cases Json.rereadItems (values.map encode) <;> rfl

theorem list_restores {decoder : Decoder α} {limit : Nat} {encode : α → Json}
    {values : List α}
    (each : ∀ value ∈ values, decoder.Restores limit (encode value) value) :
    (list decoder).Restores (limit + 1) (.array (values.map encode))
      values := by
  have unchanged : values.mapM some = some (values.map id) := List.mapM_pure
  rw [Restores, list_reread each, unchanged, List.map_id]

/-! ## Maps -/

section Keyed

variable {κ : Type} [Ord κ] [Std.TransOrd κ] [Std.LawfulEqOrd κ]

/-- A map is restored if its keys and its values are. -/
theorem keyed_restores
    {readKey : Spelling → Option κ} {decoder : Decoder α} {limit : Nat}
    {keyText : κ → String} {encode : α → Json} {map : SortedMap κ α}
    (keys : ∀ key, readKey (Json.spelling (keyText key)) = some key)
    (values : ∀ entry ∈ map.entries,
      decoder.Restores limit (encode entry.2) entry.2) :
    (keyed readKey decoder).Restores (limit + 1)
      (.object (map.entries.map fun entry =>
        (keyText entry.1, encode entry.2))) map := by
  have read : ∀ entries : List (κ × α),
      (∀ entry ∈ entries, decoder.Restores limit (encode entry.2) entry.2) →
      (Json.rereadMembers (entries.map fun entry =>
        (keyText entry.1, encode entry.2))).bind (fun members =>
          members.mapM fun (member : Spelling × Document) => do
            let key ← readKey member.1
            let value ← decoder limit member.2
            some (key, value)) = some entries := by
    intro entries
    induction entries with
    | nil =>
        intro _
        rfl
    | cons entry entries ih =>
        intro values
        obtain ⟨document, reread, decoded⟩ :=
          (values entry (by simp)).exists_document
        obtain ⟨members, rereadRest, decodedRest⟩ :=
          Option.bind_eq_some_iff.mp
            (ih fun other member => values other (by simp [member]))
        simp only [Option.bind_eq_bind] at decodedRest
        simp only [List.map_cons, Json.rereadMembers, reread, rereadRest,
          Option.bind_some, Option.map_some, List.mapM_cons, decodedRest,
          keys, decoded, Option.bind_eq_bind]
        rfl
  obtain ⟨members, reread, decoded⟩ :=
    Option.bind_eq_some_iff.mp (read map.entries values)
  simp only [Restores, Json.reread, reread, Option.map_some,
    Option.bind_some, keyed]
  rw [decoded, Option.map_some, SortedMap.ofList_entries]

end Keyed

theorem textKey_spelling (key : String) :
    textKey (Json.spelling key) = some key := rfl

private theorem isVerbatim_of_isDigit {character : Char}
    (isDigit : character.isDigit = true) :
    Json.isVerbatim character = true := by
  have range : 48 ≤ character.toNat ∧ character.toNat ≤ 57 := by
    simpa [Char.isDigit, UInt32.le_iff_toNat_le] using isDigit
  have apart : ∀ other : Char, other.toNat < 48 ∨ 57 < other.toNat →
      character ≠ other := by
    rintro other outside rfl
    omega
  simp only [Json.isVerbatim, Json.escape, if_neg (apart '"' (by decide)),
    if_neg (apart '\\' (by decide)), if_neg (apart '\n' (by decide)),
    if_neg (apart '\r' (by decide)), if_neg (apart '\t' (by decide)),
    if_neg (by omega : ¬character.toNat = 8),
    if_neg (by omega : ¬character.toNat = 12),
    if_neg (by omega : ¬character.toNat < 0x20), decide_true]

theorem wordKey_spelling (key : UInt32) :
    wordKey (Json.spelling (Text.decimal key.toNat)) = some key := by
  have bounded : key.toNat < UInt32.size := key.toNat_lt_size
  have verbatim : (Text.decimalDigits key.toNat).all Json.isVerbatim =
      true := by
    rw [List.all_eq_true]
    intro digit member
    exact isVerbatim_of_isDigit
      (Text.isDigit_of_mem_decimalDigits key.toNat digit member)
  simp [wordKey, Json.spelling, Text.decimal, verbatim, bounded]

theorem textMap_restores
    {decoder : Decoder α} {limit : Nat} {encode : α → Json}
    (map : SortedMap String α)
    (values : ∀ entry ∈ map.entries,
      decoder.Restores limit (encode entry.2) entry.2) :
    (keyed textKey decoder).Restores (limit + 1) (.ofTextMap encode map)
      map :=
  keyed_restores textKey_spelling values

theorem wordMap_restores
    {decoder : Decoder α} {limit : Nat} {encode : α → Json}
    (map : SortedMap UInt32 α)
    (values : ∀ entry ∈ map.entries,
      decoder.Restores limit (encode entry.2) entry.2) :
    (keyed wordKey decoder).Restores (limit + 1) (.ofWordMap encode map)
      map :=
  keyed_restores wordKey_spelling values

/-! ## Records -/

/-- The members of a record by its fields, of which some have no value. -/
def membersOfSlots : List String → List (Option Json) → List (String × Json)
  | name :: names, slot :: slots =>
      Json.optionalMember name slot ++ membersOfSlots names slots
  | _, _ => []

/-- What is read back of a field. -/
def rereadSlot : Option Json → Option (Option Document)
  | none => some none
  | some value => value.reread.map some

/-- What is read back of the fields of a record. -/
def rereadSlots : List (Option Json) → Option (List (Option Document))
  | [] => some []
  | slot :: slots =>
      (rereadSlot slot).bind fun document =>
        (rereadSlots slots).map (document :: ·)

private theorem rereadMembers_bind_cons {β : Type} (name : String)
    (value : Json) (members : List (String × Json))
    (next : List (Spelling × Document) → Option β) :
    (Json.rereadMembers ((name, value) :: members)).bind next =
      value.reread.bind fun document =>
        (Json.rereadMembers members).bind fun others =>
          next ((Json.spelling name, document) :: others) := by
  cases reread : value.reread with
  | none => simp [Json.rereadMembers, reread]
  | some document =>
      cases others : Json.rereadMembers members <;>
        simp [Json.rereadMembers, reread, others]

private theorem map_append_singleton (filled back : List (Option Document))
    (document : Option Document)
    (others : Option (List (Option Document))) :
    others.map (filled ++ [document] ++ · ++ back) =
      (others.map (document :: ·)).map (filled ++ · ++ back) := by
  rw [Option.map_map]
  congr 1
  funext rest
  simp

/-- Fields in a row are entered between those around them. -/
theorem enterMembers
    {fields : FieldNames} {names : List String} {slots : List (Option Json)}
    (sameLength : names.length = slots.length)
    (filled back : List (Option Document))
    (indices : ∀ position (inside : position < names.length),
      fieldIndex? fields names[position] =
        some (filled.length + position)) :
    (Json.rereadMembers (membersOfSlots names slots)).bind
        (List.foldlM (enterMember fields)
          (filled ++ List.replicate names.length none ++ back)) =
      (rereadSlots slots).map (filled ++ · ++ back) := by
  induction names generalizing slots filled with
  | nil =>
      cases slots with
      | nil => simp [membersOfSlots, Json.rereadMembers, rereadSlots]
      | cons slot slots => simp at sameLength
  | cons name names ih =>
      cases slots with
      | nil => simp at sameLength
      | cons slot slots =>
          have restLength : names.length = slots.length := by
            simpa using sameLength
          have later (document : Option Document) :
              (Json.rereadMembers (membersOfSlots names slots)).bind
                  (List.foldlM (enterMember fields) (filled ++ [document] ++
                    List.replicate names.length none ++ back)) =
                ((rereadSlots slots).map (document :: ·)).map
                  (filled ++ · ++ back) := by
            rw [← map_append_singleton]
            refine ih restLength (filled ++ [document]) ?_
            intro position inside
            have index := indices (position + 1) (by simpa using inside)
            simpa [Nat.add_assoc, Nat.add_comm 1] using index
          cases slot with
          | none =>
              have rest := later none
              rw [List.append_assoc filled] at rest
              exact rest
          | some value =>
              have index := indices 0 (by simp)
              simp only [List.getElem_cons_zero, Nat.add_zero] at index
              have entered (document : Document) : enterMember fields
                  (filled ++ List.replicate (names.length + 1) none ++ back)
                  (Json.spelling name, document) =
                    some (filled ++ [some document] ++
                      List.replicate names.length none ++ back) := by
                simp [enterMember, Json.spelling, index,
                  List.replicate_succ]
              simp only [membersOfSlots, Json.optionalMember,
                List.singleton_append, rereadMembers_bind_cons,
                List.length_cons, List.foldlM_cons, entered,
                Option.bind_eq_bind, Option.bind_some, later, rereadSlots,
                rereadSlot]
              cases value.reread <;> rfl

/-- The slots of a record are filled with what is read back of its fields. -/
private theorem slotsOfMembers_reread
    {fields : FieldNames} {names : List String} {slots : List (Option Json)}
    (sameLength : names.length = slots.length)
    (allFields : names.length = fields.length)
    (indices : ∀ position (inside : position < names.length),
      fieldIndex? fields names[position] = some position) :
    (Json.rereadMembers (membersOfSlots names slots)).bind
        (slotsOfMembers fields) = rereadSlots slots := by
  have entered := enterMembers sameLength [] [] (by simpa using indices)
  have empty : (fields.map fun _ => (none : Option Document)) =
      List.replicate names.length none := by
    rw [allFields, List.map_const']
  simp only [List.nil_append, List.append_nil, Option.map_id'] at entered
  rw [← entered, ← empty]
  rfl

section Members

variable {fields : FieldNames}
  {build : Nat → List (Option Document) → Option α}
  {names : List String} {slots : List (Option Json)}

/-- A record is built from what is read back of its fields. -/
theorem record_reread
    (sameLength : names.length = slots.length)
    (allFields : names.length = fields.length)
    (indices : ∀ position (inside : position < names.length),
      fieldIndex? fields names[position] = some position) (limit : Nat) :
    (Json.object (membersOfSlots names slots)).reread.bind
        (record fields build (limit + 1)) =
      (rereadSlots slots).bind (build limit) := by
  rw [← slotsOfMembers_reread sameLength allFields indices]
  cases members : Json.rereadMembers (membersOfSlots names slots) <;>
    simp [Json.reread, members, record]

/-- So is a record that has to be an object. -/
theorem members_reread
    (sameLength : names.length = slots.length)
    (allFields : names.length = fields.length)
    (indices : ∀ position (inside : position < names.length),
      fieldIndex? fields names[position] = some position) (limit : Nat) :
    (Json.object (membersOfSlots names slots)).reread.bind
        (members fields build (limit + 1)) =
      (rereadSlots slots).bind (build limit) := by
  rw [← slotsOfMembers_reread sameLength allFields indices]
  cases entries : Json.rereadMembers (membersOfSlots names slots) <;>
    simp [Json.reread, entries, members]

/-- A record is restored if it is built from its fields. -/
theorem record_restores {limit : Nat} {value : α}
    (sameLength : names.length = slots.length)
    (allFields : names.length = fields.length)
    (indices : ∀ position (inside : position < names.length),
      fieldIndex? fields names[position] = some position)
    (built : (rereadSlots slots).bind (build limit) = some value) :
    (record fields build).Restores (limit + 1)
      (.object (membersOfSlots names slots)) value :=
  (record_reread sameLength allFields indices limit).trans built

end Members

/-! ## Fields -/

/-- What is read back of a field gives a value. -/
def SlotRestores (read : Nat → Option Document → Option α) (limit : Nat)
    (slot : Option Json) (value : α) : Prop :=
  (rereadSlot slot).bind (read limit) = some value

theorem SlotRestores.exists_document
    {read : Nat → Option Document → Option α} {limit : Nat}
    {slot : Option Json} {value : α}
    (restores : SlotRestores read limit slot value) :
    ∃ document, rereadSlot slot = some document ∧
      read limit document = some value :=
  Option.bind_eq_some_iff.mp restores

theorem Restores.required
    {decoder : Decoder α} {limit : Nat} {printed : Json} {value : α}
    (restores : decoder.Restores limit printed value) :
    SlotRestores (required decoder) limit (some printed) value := by
  obtain ⟨document, reread, decoded⟩ := restores.exists_document
  simp [SlotRestores, rereadSlot, reread, Decoder.required, decoded]

theorem Restores.defaulting
    {decoder : Decoder α} {limit : Nat} {printed : Json} {value : α}
    (restores : decoder.Restores limit printed value) (default : α) :
    SlotRestores (defaulting default decoder) limit (some printed)
      value := by
  obtain ⟨document, reread, decoded⟩ := restores.exists_document
  simp [SlotRestores, rereadSlot, reread, Decoder.defaulting, decoded]

theorem absentOr_none (decoder : Decoder α) (limit : Nat) :
    SlotRestores (absentOr decoder) limit none none := rfl

/-- A value that is not `null` is decoded where it may be absent. -/
theorem absentOr_reread {printed : Json} (given : printed ≠ .null)
    (decoder : Decoder α) (limit : Nat) :
    (rereadSlot (some printed)).bind (absentOr decoder limit) =
      (printed.reread.bind (decoder limit)).map some := by
  cases read : printed.reread with
  | none => simp [rereadSlot, read]
  | some document =>
      have notNull : document ≠ .null := by
        rintro rfl
        exact given (Json.reread_eq_null read)
      simp only [rereadSlot, read, Option.map_some, Option.bind_some,
        Decoder.absentOr, Decoder.defaulting]
      unfold optional
      split
      next isNull => exact absurd rfl notNull
      next => rfl

theorem Restores.absentOr
    {decoder : Decoder α} {limit : Nat} {printed : Json} {value : α}
    (restores : decoder.Restores limit printed value)
    (given : printed ≠ .null) :
    SlotRestores (absentOr decoder) limit (some printed) (some value) := by
  have read : printed.reread.bind (decoder limit) = some value := restores
  rw [SlotRestores, absentOr_reread given, read, Option.map_some]

theorem optional_restores
    {decoder : Decoder α} {limit : Nat} {encode : α → Json}
    {value : Option α}
    (restores : ∀ present, value = some present →
      decoder.Restores limit (encode present) present)
    (given : ∀ present, value = some present → encode present ≠ .null) :
    SlotRestores (absentOr decoder) limit (value.map encode) value := by
  cases value with
  | none => exact absentOr_none decoder limit
  | some present => exact (restores present rfl).absentOr (given present rfl)

theorem optionalText_restores (limit : Nat) (value : Option String) :
    SlotRestores (absentOr text) limit (value.map .string) value :=
  optional_restores (fun present _ => text_restores limit present) (by simp)

/-! ## Floating-point numbers -/

theorem double_eq (limit : Nat) : double limit = double 0 := by
  funext document
  match document with
  | .number (some (.float _)) | .number (some (.integer _))
  | .number none | .null | .bool _ | .string _ | .array _ | .object _ => rfl

theorem absentOr_double (limit : Nat) (slot : Option Document) :
    absentOr double limit slot = absentOr double 0 slot := by
  match slot with
  | none | some .null => rfl
  | some (.number (some (.float _))) | some (.number (some (.integer _)))
  | some (.number none) | some (.bool _) | some (.string _)
  | some (.array _) | some (.object _) => rfl

/-! ## Small records -/

section Small

variable {γ δ : Type} {limit : Nat}
variable {first : Nat → Option Document → Option α}
  {second : Nat → Option Document → Option β}
  {third : Nat → Option Document → Option γ}
variable {firstSlot secondSlot thirdSlot : Option Json} {x : α} {y : β}
  {z : γ}

theorem SlotRestores.one (isFirst : SlotRestores first limit firstSlot x)
    (build : α → δ) :
    (rereadSlots [firstSlot]).bind (fun slots =>
      match slots with
      | [a] => do some (build (← first limit a))
      | _ => none) = some (build x) := by
  obtain ⟨a, aRead, aDecoded⟩ := isFirst.exists_document
  simp [rereadSlots, aRead, aDecoded]

theorem SlotRestores.two (isFirst : SlotRestores first limit firstSlot x)
    (isSecond : SlotRestores second limit secondSlot y)
    (build : α → β → δ) :
    (rereadSlots [firstSlot, secondSlot]).bind (fun slots =>
      match slots with
      | [a, b] => do some (build (← first limit a) (← second limit b))
      | _ => none) = some (build x y) := by
  obtain ⟨a, aRead, aDecoded⟩ := isFirst.exists_document
  obtain ⟨b, bRead, bDecoded⟩ := isSecond.exists_document
  simp [rereadSlots, aRead, bRead, aDecoded, bDecoded]

theorem SlotRestores.three (isFirst : SlotRestores first limit firstSlot x)
    (isSecond : SlotRestores second limit secondSlot y)
    (isThird : SlotRestores third limit thirdSlot z)
    (build : α → β → γ → δ) :
    (rereadSlots [firstSlot, secondSlot, thirdSlot]).bind (fun slots =>
      match slots with
      | [a, b, c] => do
          some (build (← first limit a) (← second limit b)
            (← third limit c))
      | _ => none) = some (build x y z) := by
  obtain ⟨a, aRead, aDecoded⟩ := isFirst.exists_document
  obtain ⟨b, bRead, bDecoded⟩ := isSecond.exists_document
  obtain ⟨c, cRead, cDecoded⟩ := isThird.exists_document
  simp [rereadSlots, aRead, bRead, cRead, aDecoded, bDecoded, cDecoded]

end Small

end Decoder

namespace Double

open Decoder

/-- What is read back of a number. -/
def reread? (number : Double) : Option Double :=
  (Json.double number).reread.bind (Decoder.double 0)

/-- What is read back of a number that may be absent. -/
def rereadOptional? (number : Option Double) : Option (Option Double) :=
  (rereadSlot (number.map Json.double)).bind (absentOr double 0)

/-- A number that is not finite is printed as `null`, which is no number. -/
theorem reread?_of_not_finite {number : Double}
    (notFinite : number.isFinite = false) : number.reread? = none := by
  simp only [reread?, Json.double, notFinite]
  rfl

theorem rereadOptional?_of_finite {number : Double}
    (isFinite : number.isFinite = true) :
    rereadOptional? (some number) = number.reread?.map some := by
  have given : Json.double number ≠ .null := by simp [Json.double, isFinite]
  exact absentOr_reread given double 0

/-- A number that is not finite comes back as none. -/
theorem rereadOptional?_of_not_finite {number : Double}
    (notFinite : number.isFinite = false) :
    rereadOptional? (some number) = some none := by
  have printed : Json.double number = .null := by
    simp [Json.double, notFinite]
  rw [rereadOptional?, Option.map_some, printed]
  rfl

/-- A number comes back as itself exactly if it is finite and the reader makes
it of its digits. -/
theorem rereadOptional?_eq_self_iff (number : Option Double) :
    rereadOptional? number = some number ↔
      ∀ value, number = some value → value.reread? = some value := by
  cases number with
  | none => exact ⟨by rintro _ _ ⟨⟩, fun _ => rfl⟩
  | some value =>
      cases isFinite : value.isFinite with
      | true => simp [rereadOptional?_of_finite isFinite]
      | false =>
          simp [rereadOptional?_of_not_finite isFinite,
            reread?_of_not_finite isFinite]

end Double

end AgentPipeline
