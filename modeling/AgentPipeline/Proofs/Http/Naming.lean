import AgentPipeline.Http.Client
import AgentPipeline.Proofs.Http.Words

/-!
# What a request names

A call that names a model of the user or a run puts the identifier into the
path as it is.  So the address reads the identifier as a part of the path: it
is one segment, from which it can be read back, exactly if it holds no mark, no
slash and no escape, is no dot segment and loses no blank.  Identifiers of this
kind are told apart; any other is not read back from what is sent.  All this
holds however the client spells the names of hosts outside ASCII.  Main
statement: `addressedUnder_parse?`.
-/

namespace AgentPipeline

/-! ## Calls that name -/

/-- A call that names a model of the user or a run. -/
inductive NamingCall where
  | deleteModel
  | poll (offset : UInt64)
  | control (action : RunControl)
  | fetchRecord (index : UInt32)
deriving DecidableEq

namespace NamingCall

/-- The call for what has an identifier. -/
def request (id : String) : NamingCall → Request
  | deleteModel => .deleteModel id
  | poll offset => .poll id offset
  | control action => .control id action
  | fetchRecord index => .fetchRecord id index

/-- The path under which what is named is found. -/
def collection : NamingCall → String
  | deleteModel => Request.modelsPath
  | poll _ | control _ | fetchRecord _ => Request.runsPath

/-- The segments behind the one that names. -/
def details : NamingCall → List (List Char)
  | deleteModel | poll _ => []
  | control action => [action.segment.toList]
  | fetchRecord index =>
      ["record".toList, (Text.decimal index.toNat).toList]

/-- What a client names in the request for a call. -/
def target? (client : HttpClient) (id : String) (call : NamingCall) :
    Option String :=
  (client.request? (call.request id)).map (·.url.target)

/-- The identifier is the one segment of the target behind those of the
collection and in front of the details, and it is what the segment stands
for. -/
def Names (call : NamingCall) (collection : Url) (id target : String) : Prop :=
  ∃ segment,
    Url.targetSegments target =
      collection.path.map String.toList ++ segment :: call.details ∧
    Text.percentDecoded segment = Text.utf8Bytes id.toList

/-- An identifier that an address holds as one segment. -/
structure IsPlain (call : NamingCall) (id : String) : Prop where
  /-- Nothing ends the segment, and nothing is dropped from it. -/
  stays : ∀ character ∈ id.toList,
    character ∉ ['/', '\\', '?', '#', '\t', '\n', '\r']
  noDots : Url.isDots id.toList = false
  /-- No percent sign stands in front of two hexadecimal digits. -/
  noEscape : Text.percentDecoded id.toList = Text.utf8Bytes id.toList
  /-- A blank at the end of an address is dropped. -/
  noBlankEnd : call.details = [] →
    ∀ last ∈ id.toList.getLast?, 0x20 < last.toNat

theorem areWords_details (call : NamingCall) :
    ∀ word ∈ call.details, Url.IsWord word := by
  cases call with
  | deleteModel => exact fun _ isNone => absurd isNone List.not_mem_nil
  | poll offset => exact fun _ isNone => absurd isNone List.not_mem_nil
  | control action =>
      intro word isSegment
      obtain rfl := List.mem_singleton.mp isSegment
      cases action <;> decide
  | fetchRecord index =>
      intro word isSegment
      rcases List.mem_cons.mp isSegment with rfl | isSegment
      · decide
      · obtain rfl := List.mem_singleton.mp isSegment
        exact Url.isWord_decimal index.toNat

/-- The path of the collection behind the front of all paths. -/
def place : NamingCall → List Char
  | deleteModel => "/custom-models".toList
  | poll _ | control _ | fetchRecord _ => "/storage/evaluators/run".toList

/-- A path that leads to a word, and of which nothing is dropped. -/
structure IsPlace (place : List Char) : Prop where
  isLed : place.head? = some '/'
  isKept : place.filter Url.isKept = place
  isInside : Url.closing place = place
  isNamed : ∃ front name, place = front ++ '/' :: name ∧ Url.IsWord name

/-- A path goes on from a place as it is. -/
theorem IsPlace.closing_append_slash {place : List Char}
    (isPlace : IsPlace place) (more : List Char) :
    Url.closing (place ++ '/' :: more) = place ++ '/' :: Url.closing more := by
  have isSlash : ['/'].filter Url.isKept = ['/'] := by decide
  rw [Url.closing_append_cons place more (by decide), List.filter_append,
    isPlace.isKept, isSlash, List.append_assoc, List.singleton_append]

theorem isPlace_place (call : NamingCall) : IsPlace call.place := by
  have models : IsPlace "/custom-models".toList := {
    isLed := by decide
    isKept := by decide
    isInside := by decide
    isNamed := ⟨[], "custom-models".toList, by decide, by decide⟩ }
  have runs : IsPlace "/storage/evaluators/run".toList := {
    isLed := by decide
    isKept := by decide
    isInside := by decide
    isNamed := ⟨"/storage/evaluators".toList, "run".toList, by decide,
      by decide⟩ }
  cases call with
  | deleteModel => exact models
  | poll offset => exact runs
  | control action => exact runs
  | fetchRecord index => exact runs

theorem collection_eq (call : NamingCall) :
    call.collection = "/api" ++ String.ofList call.place := by
  have models : Request.modelsPath =
      "/api" ++ String.ofList "/custom-models".toList := by
    decide
  have runs : Request.runsPath =
      "/api" ++ String.ofList "/storage/evaluators/run".toList := by
    decide
  cases call with
  | deleteModel => exact models
  | poll offset => exact runs
  | control action => exact runs
  | fetchRecord index => exact runs

/-- The path of a call goes on from the collection with the identifier. -/
theorem path_request (call : NamingCall) (id : String) :
    (call.request id).path =
      call.collection ++ String.ofList
        ('/' :: (id.toList ++ Url.trail call.details)) := by
  have slash : "/".toList = ['/'] := by decide
  have isRecord : "/record/".toList = '/' :: ("record".toList ++ ['/']) := by
    decide
  rw [← String.toList_inj]
  cases call <;>
    simp only [request, Request.path, collection, details, Url.trail,
      String.toList_append, String.toList_ofList, List.flatMap_cons,
      List.flatMap_nil, List.append_nil, List.append_assoc, List.cons_append,
      List.nil_append, slash, isRecord]

/-! ## Where a client finds what a call names -/

/-- The front of the path in which a call names something, and what the client
says in the request. -/
structure Leads (call : NamingCall) (client : HttpClient) (collection : Url)
    (front : List Char) : Prop where
  isFront : front ≠ []
  isBare_iff : collection.query = none ∧ collection.fragment = none ↔
    ∀ character ∈ front, Url.isInPath character = true
  path_eq : collection.path = Url.segments (front.takeWhile Url.isInPath)
  whole : Url.segments front = (Url.directory front).reverse.map Url.written
  target : ∀ id, ∃ target, call.target? client id = some target ∧
    Url.targetSegments target =
      (Url.segments ((front ++ '/' :: Url.closing
        (id.toList ++ Url.trail call.details)).takeWhile
          Url.isInPath)).map String.toList

theorem url?_eq (call : NamingCall) (client : HttpClient) (id : String) :
    ∃ finish : Url → Url, (∀ url, (finish url).path = url.path) ∧
      (call.request id).url? client.spelling? client.baseUrl =
        (Url.parse? client.spelling?
          (client.baseUrl ++ (call.request id).path)).map finish := by
  cases call with
  | poll offset =>
      refine ⟨fun url => url.withField "offset" (Text.decimal offset.toNat),
        fun _ => rfl, ?_⟩
      rw [request, Request.url?]
  | deleteModel =>
      refine ⟨fun url => url, fun _ => rfl, ?_⟩
      rw [request, Request.url?]
  | control action =>
      refine ⟨fun url => url, fun _ => rfl, ?_⟩
      rw [request, Request.url?]
  | fetchRecord index =>
      refine ⟨fun url => url, fun _ => rfl, ?_⟩
      rw [request, Request.url?]

theorem target?_of_parse? {call : NamingCall} {client : HttpClient}
    {id : String} {url : Url}
    (isRead : Url.parse? client.spelling?
      (client.baseUrl ++ (call.request id).path) = some url)
    (isPath : Url.IsPath url.path) :
    ∃ target, call.target? client id = some target ∧
      Url.targetSegments target = url.path.map String.toList := by
  obtain ⟨finish, samePath, isFinished⟩ := url?_eq call client id
  rw [isRead, Option.map_some] at isFinished
  refine ⟨(finish url).target, ?_, ?_⟩
  · rw [target?, HttpClient.request?, isFinished]
    rfl
  · rw [Url.targetSegments_target (by rwa [samePath]), samePath]

theorem target?_of_parse?_eq_none {call : NamingCall} {client : HttpClient}
    {id : String}
    (isRead : Url.parse? client.spelling?
      (client.baseUrl ++ (call.request id).path) = none) :
    call.target? client id = none := by
  obtain ⟨finish, -, isFinished⟩ := url?_eq call client id
  rw [isRead, Option.map_none] at isFinished
  rw [target?, HttpClient.request?, isFinished]
  rfl

/-- The collection and what is named in it are read from the same start. -/
theorem exists_start (call : NamingCall) (client : HttpClient) :
    ∃ start : Option (Url × List Char),
      Url.parse? client.spelling? (client.baseUrl ++ call.collection) =
        start.map (fun start => start.1.goingOn (start.2 ++ call.place)) ∧
      ∀ id, Url.parse? client.spelling?
          (client.baseUrl ++ (call.request id).path) =
        start.map fun start => start.1.goingOn (start.2 ++ call.place
          ++ '/' :: Url.closing (id.toList ++ Url.trail call.details)) := by
  obtain ⟨start, reads⟩ :=
    Url.exists_parse?_append client.spelling? client.baseUrl
  have isPlace := call.isPlace_place
  refine ⟨start, ?_, fun id => ?_⟩
  · have isClosed : Url.closing (String.ofList call.place).toList =
        call.place := by
      rw [String.toList_ofList, isPlace.isInside]
    rw [collection_eq, reads _ (by rw [isClosed, isPlace.isLed]), isClosed]
  · have isSpelled : client.baseUrl ++ (call.request id).path =
        client.baseUrl ++ ("/api" ++ String.ofList (call.place
          ++ '/' :: (id.toList ++ Url.trail call.details))) := by
      rw [path_request, collection_eq, String.append_assoc,
        ← String.ofList_append]
    have isClosed : Url.closing (String.ofList (call.place
        ++ '/' :: (id.toList ++ Url.trail call.details))).toList =
          call.place ++ '/' ::
            Url.closing (id.toList ++ Url.trail call.details) := by
      rw [String.toList_ofList, isPlace.closing_append_slash]
    have isLed : (call.place ++ '/' :: Url.closing
        (id.toList ++ Url.trail call.details)).head? = some '/' := by
      rw [List.head?_append, isPlace.isLed, Option.some_or]
    rw [isSpelled, reads _ (isClosed ▸ isLed), isClosed]
    simp only [List.append_assoc]

/-- Whatever the base, the collection is an address exactly where each call
for something in it is, and they share the front of the path. -/
theorem leads_of_parse? (call : NamingCall) (client : HttpClient) :
    (Url.parse? client.spelling? (client.baseUrl ++ call.collection) = none →
      ∀ id, call.target? client id = none) ∧
    (∀ collection,
      Url.parse? client.spelling? (client.baseUrl ++ call.collection) =
        some collection →
        ∃ front, call.Leads client collection front) := by
  obtain ⟨start, ofCollection, ofRequest⟩ := call.exists_start client
  have isPlace := call.isPlace_place
  constructor
  · intro isNone id
    rw [ofCollection, Option.map_eq_none_iff] at isNone
    refine target?_of_parse?_eq_none ?_
    rw [ofRequest, isNone, Option.map_none]
  · intro collection isRead
    rw [ofCollection, Option.map_eq_some_iff] at isRead
    obtain ⟨⟨site, lead⟩, rfl, rfl⟩ := isRead
    refine ⟨lead ++ call.place, ?isFront, ?isBare, ?path, ?whole, ?target⟩
    case isFront =>
      intro nothing
      rw [(List.append_eq_nil_iff.mp nothing).2] at isPlace
      exact absurd isPlace.isLed (by decide)
    case isBare => exact Url.goingOn_isBare_iff site _
    case path => exact Url.path_goingOn site _
    case whole =>
      obtain ⟨front, name, isNamed, isWord⟩ := isPlace.isNamed
      rw [isNamed, ← List.append_assoc]
      exact Url.segments_of_name _ isWord.noSlash isWord.noDots
    case target =>
      intro id
      have isRead := ofRequest id
      rw [Option.map_some] at isRead
      obtain ⟨target, isTarget, names⟩ := target?_of_parse? isRead
        (by rw [Url.path_goingOn]; exact Url.isPath_segments _)
      exact ⟨target, isTarget, by rw [names, Url.path_goingOn]⟩

/-! ## Which identifiers a request names -/

theorem stays_iff {character : Char} :
    character ∉ ['/', '\\', '?', '#', '\t', '\n', '\r'] ↔
      Url.isSlash character = false ∧ Url.isInPath character = true ∧
        Url.isKept character = true := by
  simp [Url.isSlash, Url.isKept, and_assoc]

theorem isPlain_of_eq_nil {call : NamingCall} {id : String}
    (nothing : id.toList = []) : call.IsPlain id where
  stays := by simp [nothing]
  noDots := by
    rw [nothing]
    decide
  noEscape := by
    rw [nothing, Text.utf8Bytes_nil, Text.percentDecoded]
  noBlankEnd := by simp [nothing]

theorem map_toList_eq_map_shown (segments : List (List Char)) :
    (segments.map Url.written).map String.toList = segments.map Url.shown := by
  rw [List.map_map]
  rfl

section

variable {call : NamingCall} {client : HttpClient} {collection : Url}
  {front : List Char} (leads : call.Leads client collection front)
include leads

/-- Where all of the front belongs to the path, a request goes on from the
directory of the collection with what the address keeps. -/
theorem Leads.targetSegments_eq
    (isBare : ∀ character ∈ front, Url.isInPath character = true)
    {id target : String} (isTarget : call.target? client id = some target) :
    collection.path.map String.toList =
        (Url.directory front).reverse.map Url.shown ∧
      Url.targetSegments target =
        (Url.resolveDots (Url.directory front)
          (Text.piecesBetween Url.isSlash
            ((Url.closing (id.toList ++ Url.trail call.details)).takeWhile
              Url.isInPath))).map Url.shown := by
  obtain ⟨sent, isSent, names⟩ := leads.target id
  obtain rfl := Option.some.inj (isTarget.symm.trans isSent)
  constructor
  · rw [leads.path_eq, List.takeWhile_eq_self_iff.mpr isBare, leads.whole,
      map_toList_eq_map_shown]
  · rw [names, List.takeWhile_append_of_pos isBare,
      List.takeWhile_cons_of_pos (by decide),
      Url.segments_append_slash _ leads.isFront, map_toList_eq_map_shown]

/-- Behind a query or a fragment no request names anything. -/
theorem Leads.not_names
    (isCut : ¬∀ character ∈ front, Url.isInPath character = true)
    {id target : String} (isTarget : call.target? client id = some target) :
    ¬call.Names collection id target := by
  rintro ⟨segment, isNamed, -⟩
  obtain ⟨sent, isSent, names⟩ := leads.target id
  obtain rfl := Option.some.inj (isTarget.symm.trans isSent)
  have isShort : ¬(front.takeWhile Url.isInPath).length = front.length := by
    intro whole
    have isWhole := (List.takeWhile_prefix Url.isInPath).eq_of_length whole
    exact isCut (List.takeWhile_eq_self_iff.mp isWhole)
  rw [names, List.takeWhile_append, if_neg isShort, ← leads.path_eq] at isNamed
  simp at isNamed

theorem Leads.names_of_isPlain
    (isBare : ∀ character ∈ front, Url.isInPath character = true)
    {id target : String} (isTarget : call.target? client id = some target)
    (isPlain : call.IsPlain id) : call.Names collection id target := by
  obtain ⟨isCollection, names⟩ := leads.targetSegments_eq isBare isTarget
  have areWords := call.areWords_details
  have isKept : Url.closing (id.toList ++ Url.trail call.details) =
      id.toList ++ Url.trail call.details := by
    refine Url.closing_append_trail_of_isKept areWords ?_ ?_
    · exact fun character isInside =>
        (stays_iff.mp (isPlain.stays character isInside)).2.2
    · intro noDetails last isLast
      have isSeen := isPlain.noBlankEnd noDetails last isLast
      rw [Url.isAround, decide_eq_false_iff_not]
      omega
  have isPath : (id.toList ++ Url.trail call.details).takeWhile Url.isInPath =
      id.toList ++ Url.trail call.details := by
    rw [List.takeWhile_eq_self_iff, List.forall_mem_append]
    exact ⟨fun character isInside =>
        (stays_iff.mp (isPlain.stays character isInside)).2.1,
      fun character isInside => (Url.of_mem_trail areWords isInside).1⟩
  have noSlash : ∀ character ∈ id.toList, Url.isSlash character = false :=
    fun character isInside =>
      (stays_iff.mp (isPlain.stays character isInside)).1
  have noDots : ∀ segment ∈ id.toList :: call.details,
      Url.isDots segment = false := by
    rw [List.forall_mem_cons]
    exact ⟨isPlain.noDots, fun word isInside => (areWords word isInside).noDots⟩
  refine ⟨Url.shown id.toList, ?_, ?_⟩
  · rw [names, isKept, isPath, Url.piecesBetween_append_trail _ areWords,
      Url.piecesBetween_of_no_slash noSlash, List.singleton_append,
      Url.resolveDots_of_not_isDots _ noDots, List.map_append, List.map_cons,
      Url.map_shown_of_isWord areWords, isCollection]
  · rw [Url.shown, Url.percentDecoded_written, isPlain.noEscape]

theorem Leads.isPlain_of_names
    (isBare : ∀ character ∈ front, Url.isInPath character = true)
    {id target : String} (isTarget : call.target? client id = some target)
    (names : call.Names collection id target) : call.IsPlain id := by
  obtain ⟨segment, isNamed, standsFor⟩ := names
  obtain ⟨isCollection, names⟩ := leads.targetSegments_eq isBare isTarget
  have areWords := call.areWords_details
  obtain ⟨part, left, isKept, keeps⟩ := Url.exists_keeps id.toList areWords
  have areLeft : ∀ word ∈ left, Url.IsWord word := by
    rcases keeps.isLeft with rfl | rfl
    · exact areWords
    · exact fun _ isNone => absurd isNone List.not_mem_nil
  rw [isCollection, names, isKept,
    Url.piecesBetween_append_trail part areLeft] at isNamed
  obtain ⟨source, rfl, isSource⟩ :=
    Url.of_map_shown_eq areWords keeps.isLeft isNamed
  rw [Url.shown, Url.percentDecoded_written] at standsFor
  rcases isSource with rfl | ⟨isPiece, noDots⟩
  · refine isPlain_of_eq_nil (Text.utf8Bytes_injective ?_)
    rw [← standsFor, Text.utf8Bytes_nil, Text.percentDecoded]
  · obtain ⟨isInPart, noSlash⟩ := Text.of_mem_piecesBetween isPiece
    -- A segment has no more bytes than it stands for, so nothing was lost.
    have isWhole : source = id.toList := by
      refine Text.eq_of_sublist_of_utf8Bytes_le
        (isInPart.trans keeps.isPart) ?_
      rw [← standsFor]
      exact Text.length_percentDecoded_le source
    subst isWhole
    have isAll : part = id.toList := keeps.isPart.antisymm isInPart
    refine ⟨?stays, noDots, standsFor, ?noBlankEnd⟩
    case stays =>
      intro character isInside
      have isThere : character ∈ part := by rwa [isAll]
      exact stays_iff.mpr ⟨noSlash character isInside,
        keeps.isPath character isThere, keeps.isKept character isThere⟩
    case noBlankEnd =>
      intro noDetails last isLast
      have isSeen := keeps.noBlankEnd isAll noDetails last isLast
      rw [Url.isAround, decide_eq_false_iff_not] at isSeen
      omega

end

/-! ## Exactly which identifiers are addressed -/

/-- The requests for what a collection holds are told apart exactly as far as
its address is a path alone and identifiers are plain. -/
structure Addresses (call : NamingCall) (client : HttpClient)
    (collection : Url) : Prop where
  names_iff : ∀ id, ∃ target, call.target? client id = some target ∧
    (call.Names collection id target ↔
      collection.query = none ∧ collection.fragment = none ∧
        call.IsPlain id)
  apart : collection.query = none → collection.fragment = none →
    ∀ other : NamingCall, other.collection = call.collection →
      ∀ id otherId, call.IsPlain id → other.IsPlain otherId →
        call.target? client id = other.target? client otherId → id = otherId

theorem eq_of_names {call other : NamingCall} {collection : Url}
    {id otherId target : String} (names : call.Names collection id target)
    (otherNames : other.Names collection otherId target) : id = otherId := by
  obtain ⟨segment, isNamed, standsFor⟩ := names
  obtain ⟨otherSegment, isOther, standsForOther⟩ := otherNames
  have sameSegment : segment = otherSegment :=
    (List.cons.inj (List.append_cancel_left (isNamed.symm.trans isOther))).1
  subst sameSegment
  exact String.toList_inj.mp
    (Text.utf8Bytes_injective (standsFor.symm.trans standsForOther))

/-- What a client says in its requests, by the address of the collection:
without one no request has an address. -/
inductive AddressedUnder (call : NamingCall) (client : HttpClient) :
    Option Url → Prop where
  | nowhere (noTarget : ∀ id, call.target? client id = none) :
      AddressedUnder call client none
  | somewhere {collection : Url}
      (addresses : call.Addresses client collection) :
      AddressedUnder call client (some collection)

theorem Leads.addresses {call : NamingCall} {client : HttpClient}
    {collection : Url} {front : List Char}
    (leads : call.Leads client collection front)
    (leadsOther : ∀ other : NamingCall, other.collection = call.collection →
      ∃ front, other.Leads client collection front) :
    call.Addresses client collection := by
  refine ⟨fun id => ?names, ?apart⟩
  case names =>
    obtain ⟨target, isTarget, -⟩ := leads.target id
    refine ⟨target, isTarget, ?_⟩
    rw [← and_assoc, leads.isBare_iff]
    by_cases isBare : ∀ character ∈ front, Url.isInPath character = true
    · exact ⟨fun names =>
          ⟨isBare, leads.isPlain_of_names isBare isTarget names⟩,
        fun isPlain => leads.names_of_isPlain isBare isTarget isPlain.2⟩
    · exact ⟨fun names => absurd names (leads.not_names isBare isTarget),
        fun isPlain => absurd isPlain.1 isBare⟩
  case apart =>
    intro noQuery noFragment other sameCollection id otherId isPlain
      otherIsPlain sameTarget
    obtain ⟨otherFront, otherLeads⟩ := leadsOther other sameCollection
    have isBare := leads.isBare_iff.mp ⟨noQuery, noFragment⟩
    have otherIsBare := otherLeads.isBare_iff.mp ⟨noQuery, noFragment⟩
    obtain ⟨target, isTarget, -⟩ := leads.target id
    exact eq_of_names (leads.names_of_isPlain isBare isTarget isPlain)
      (otherLeads.names_of_isPlain otherIsBare (sameTarget ▸ isTarget)
        otherIsPlain)

theorem addressedUnder_of_leads {call : NamingCall} {client : HttpClient}
    {found : Option Url}
    (ofNone : found = none → ∀ id, call.target? client id = none)
    (ofSome : ∀ collection, found = some collection →
      ∀ other : NamingCall, other.collection = call.collection →
        ∃ front, other.Leads client collection front) :
    call.AddressedUnder client found := by
  cases found with
  | none => exact .nowhere (ofNone rfl)
  | some collection =>
      obtain ⟨front, leads⟩ := ofSome collection rfl call rfl
      exact .somewhere (leads.addresses (ofSome collection rfl))

/-- A client says in a request for a model or a run by its identifier where the
collection is, or it has no address for any request.  The identifier is the one
segment behind the collection exactly if it is plain and the address of the
collection is a path alone; so plain identifiers that differ are told apart. -/
theorem addressedUnder_parse? (client : HttpClient) (call : NamingCall) :
    call.AddressedUnder client
      (Url.parse? client.spelling? (client.baseUrl ++ call.collection)) :=
  addressedUnder_of_leads (call.leads_of_parse? client).1
    fun collection isRead other sameCollection =>
      (other.leads_of_parse? client).2 collection
        (sameCollection ▸ isRead)

example : ["a#1", "a#2"].map (deleteModel.target?
    ⟨"http://localhost", 0, fun _ => none⟩) =
    [some "/api/custom-models/a", some "/api/custom-models/a"] := by
  decide +kernel

end NamingCall

end AgentPipeline
