import Mathlib.Data.List.DropRight
import AgentPipeline.Proofs.Http.Segments

/-!
# Reading an address piece by piece

What an address says of its scheme, host and port ends where its path begins.
So an address that goes on behind the front of a path has the same scheme,
host and port however it goes on, or it is none however it goes on.
-/

namespace AgentPipeline.Url

variable (spelling? : List Char → Option (List Char))

/-! ## Blanks -/

/-- The characters that are dropped around an address. -/
def isAround (character : Char) : Bool := character.toNat ≤ 0x20

/-- The characters that are not dropped inside an address. -/
def isKept (character : Char) : Bool :=
  !(['\t', '\n', '\r'].contains character)

/-- The front of an address without what is dropped. -/
def opening (characters : List Char) : List Char :=
  (characters.dropWhile isAround).filter isKept

/-- The end of an address without what is dropped. -/
def closing (characters : List Char) : List Char :=
  (characters.rdropWhile isAround).filter isKept

theorem rdropWhile_append_cons {last : Char} (front rest : List Char)
    (isInside : isAround last = false) :
    (front ++ last :: rest).rdropWhile isAround =
      front ++ last :: rest.rdropWhile isAround := by
  have swapped : (front ++ last :: rest).reverse =
      rest.reverse ++ last :: front.reverse := by
    simp
  rw [List.rdropWhile, List.rdropWhile, swapped, List.dropWhile_append]
  split
  next nothing =>
    simp [isInside, List.isEmpty_iff.mp nothing]
  next => simp

theorem closing_append_cons {last : Char} (front rest : List Char)
    (isInside : isAround last = false) :
    closing (front ++ last :: rest) =
      (front ++ [last]).filter isKept ++ closing rest := by
  rw [closing, rdropWhile_append_cons front rest isInside, closing,
    ← List.filter_append, List.append_assoc, List.singleton_append]

/-- What is dropped from an address that goes on is dropped from its front and
from its end. -/
theorem cleaned_append (base further : String) :
    cleaned (base ++ ("/api" ++ further)) =
      opening base.toList ++ "/api".toList ++ closing further.toList := by
  have isStart : (base ++ ("/api" ++ further)).toList.dropWhile isAround =
      (base.toList.dropWhile isAround ++ ['/', 'a', 'p'])
        ++ 'i' :: further.toList := by
    rw [String.toList_append, List.dropWhile_append]
    split
    next nothing =>
      rw [List.isEmpty_iff.mp nothing, String.toList_append]
      rfl
    next => simp
  change closing ((base ++ ("/api" ++ further)).toList.dropWhile isAround) = _
  rw [isStart, closing_append_cons _ _ (by decide), opening]
  simp [isKept]

/-! ## The scheme -/

theorem lowerAscii_ofList_ne {characters : List Char} {name : String}
    (slash : '/' ∈ characters) (noSlash : '/' ∉ name.toList) :
    Text.lowerAscii (String.ofList characters) ≠ name := by
  rintro rfl
  refine noSlash ?_
  rw [Text.lowerAscii, String.toList_ofList, String.toList_ofList]
  exact List.mem_map.mpr ⟨'/', slash, by decide⟩

/-- The scheme is read from what stands in front of the path. -/
theorem scheme?_append_slash (front rest : List Char) :
    scheme? (front ++ '/' :: rest) =
      (scheme? front).map fun (isSecure, after) =>
        (isSecure, after ++ '/' :: rest) := by
  by_cases isNamed : ':' ∈ front
  · obtain ⟨name, after, rfl, noColon⟩ := List.eq_append_cons_of_mem isNamed
    have inside : ∀ character ∈ name, decide (character ≠ ':') = true := by
      intro character isInside
      rw [decide_eq_true_iff]
      rintro rfl
      exact noColon isInside
    have isName (more : List Char) :
        (name ++ ':' :: more).takeWhile (· ≠ ':') = name := by
      rw [List.takeWhile_append_of_pos inside]
      simp
    have isAfter (more : List Char) :
        (name ++ ':' :: more).dropWhile (· ≠ ':') = ':' :: more := by
      rw [List.dropWhile_append_of_pos inside]
      simp
    rw [List.append_assoc, List.cons_append]
    unfold scheme?
    rw [isName, isName, isAfter, isAfter]
    split <;> simp_all
  · have noColon : ∀ character ∈ front, decide (character ≠ ':') = true := by
      intro character isInside
      rw [decide_eq_true_iff]
      rintro rfl
      exact isNamed isInside
    have nothing : scheme? front = none := by
      unfold scheme?
      rw [List.dropWhile_eq_nil_iff.mpr noColon]
      split <;> simp_all
    have slash : '/' ∈ (front ++ '/' :: rest).takeWhile (· ≠ ':') := by
      rw [List.takeWhile_append_of_pos noColon]
      simp
    rw [nothing, Option.map_none]
    unfold scheme?
    split
    next isHttp _ =>
      exact absurd isHttp (lowerAscii_ofList_ne slash (by decide))
    next isHttps _ =>
      exact absurd isHttps (lowerAscii_ofList_ne slash (by decide))
    next => rfl

/-! ## Host and port -/

/-- The characters that host and port are read from. -/
def isInAuthority (character : Char) : Bool :=
  !(isSlash character || character == '?' || character == '#')

/-- The address of a host and port alone. -/
def site? (isSecure : Bool) (authority : List Char) : Option Url := do
  let (host, port) :=
    splitHost false (authority.reverse.takeWhile (· ≠ '@')).reverse
  let host ← host? spelling? host
  let port ← port? isSecure port
  some { isSecure, host, port, path := [], query := none, fragment := none }

/-- The characters that a path is read from. -/
def isInPath (character : Char) : Bool :=
  !(character == '?' || character == '#')

@[simp]
theorem isInPath_iff {character : Char} :
    isInPath character = true ↔ character ≠ '?' ∧ character ≠ '#' := by
  simp [isInPath]

/-- What stands behind the mark of a query or a fragment. -/
def behindMark (escaped : List Char) : List Char → Option String
  | [] => none
  | _ :: characters =>
      some (String.ofList (Text.percentEncoded escaped characters))

/-- The address with what follows host and port. -/
def goingOn (site : Url) (rest : List Char) : Url :=
  let resource := rest.takeWhile (· ≠ '#')
  let path := resource.takeWhile (· ≠ '?')
  { site with
    path := segments path
    query := behindMark queryEscaped (resource.drop path.length)
    fragment := behindMark fragmentEscaped (rest.drop resource.length) }

/-- The address of what follows a scheme. -/
def ofScheme? (isSecure : Bool) (rest : List Char) : Option Url :=
  let rest := rest.dropWhile isSlash
  (site? spelling? isSecure (rest.takeWhile isInAuthority)).map
    (·.goingOn (rest.dropWhile isInAuthority))

theorem parse?_eq (text : String) :
    parse? spelling? text =
      (scheme? (cleaned text)).bind fun (isSecure, rest) =>
        ofScheme? spelling? isSecure rest := by
  unfold parse?
  cases scheme? (cleaned text) with
  | none => rfl
  | some scheme =>
      obtain ⟨isSecure, rest⟩ := scheme
      simp only [Option.bind_eq_bind, Option.bind_some, ofScheme?, site?]
      unfold isInAuthority
      cases host? spelling? _ with
      | none => rfl
      | some host => cases port? isSecure _ <;> rfl

theorem takeWhile_isInAuthority {path : List Char}
    (isPath : path.head? = some '/') : path.takeWhile isInAuthority = [] := by
  obtain ⟨rest, rfl⟩ := List.head?_eq_some_iff.mp isPath
  rfl

theorem dropWhile_isInAuthority {path : List Char}
    (isPath : path.head? = some '/') :
    path.dropWhile isInAuthority = path := by
  have both := List.takeWhile_append_dropWhile (p := isInAuthority) (l := path)
  rwa [takeWhile_isInAuthority isPath, List.nil_append] at both

/-- A path has no part in host and port. -/
theorem ofScheme?_append (isSecure : Bool) (after : List Char)
    {path : List Char} (isPath : path.head? = some '/') :
    ofScheme? spelling? isSecure (after ++ "/api".toList ++ path) =
      let rest := (after ++ "/api".toList).dropWhile isSlash
      (site? spelling? isSecure (rest.takeWhile isInAuthority)).map
        (·.goingOn (rest.dropWhile isInAuthority ++ path)) := by
  have isLed : (after ++ "/api".toList ++ path).dropWhile isSlash =
      (after ++ "/api".toList).dropWhile isSlash ++ path := by
    rw [List.dropWhile_append, if_neg]
    rw [List.isEmpty_iff, List.dropWhile_eq_nil_iff]
    intro onlySlashes
    exact absurd (onlySlashes 'a' (by simp)) (by decide)
  have isAuthority (rest : List Char) :
      (rest ++ path).takeWhile isInAuthority =
        rest.takeWhile isInAuthority := by
    rw [List.takeWhile_append, takeWhile_isInAuthority isPath]
    split
    next whole =>
      rw [List.append_nil]
      exact ((List.takeWhile_prefix isInAuthority).eq_of_length whole).symm
    next => rfl
  have isBehind (rest : List Char) :
      (rest ++ path).dropWhile isInAuthority =
        rest.dropWhile isInAuthority ++ path := by
    rw [List.dropWhile_append, dropWhile_isInAuthority isPath]
    split
    next nothing => rw [List.isEmpty_iff.mp nothing, List.nil_append]
    next => rfl
  dsimp only [ofScheme?]
  rw [isLed, isAuthority, isBehind]

/-! ## The path -/

theorem path_goingOn (site : Url) (rest : List Char) :
    (site.goingOn rest).path = segments (rest.takeWhile isInPath) := by
  have both : (fun character : Char => decide (decide (character ≠ '?') = true ∧
      decide (character ≠ '#') = true)) = isInPath := by
    funext character
    rw [Bool.eq_iff_iff]
    simp
  rw [goingOn, List.takeWhile_takeWhile, both]

theorem behindMark_eq_none_iff {escaped characters : List Char} :
    behindMark escaped characters = none ↔ characters = [] := by
  cases characters <;> simp [behindMark]

theorem drop_takeWhile_eq_nil_iff {goesOn : Char → Bool}
    {characters : List Char} :
    characters.drop (characters.takeWhile goesOn).length = [] ↔
      ∀ character ∈ characters, goesOn character = true := by
  rw [List.drop_eq_nil_iff, ← List.takeWhile_eq_self_iff]
  constructor
  · intro whole
    have isFront := List.takeWhile_prefix (l := characters) goesOn
    exact isFront.eq_of_length (Nat.le_antisymm isFront.length_le whole)
  · intro whole
    rw [whole]

/-- There is neither a query nor a fragment exactly where all belongs to the
path. -/
theorem goingOn_isBare_iff (site : Url) (rest : List Char) :
    (site.goingOn rest).query = none ∧ (site.goingOn rest).fragment = none ↔
      ∀ character ∈ rest, isInPath character = true := by
  have noQuery : (site.goingOn rest).query = none ↔
      ∀ character ∈ rest.takeWhile (· ≠ '#'),
        decide (character ≠ '?') = true := by
    rw [← drop_takeWhile_eq_nil_iff]
    exact behindMark_eq_none_iff
  have noFragment : (site.goingOn rest).fragment = none ↔
      ∀ character ∈ rest, decide (character ≠ '#') = true := by
    rw [← drop_takeWhile_eq_nil_iff]
    exact behindMark_eq_none_iff
  rw [noQuery, noFragment]
  constructor
  · rintro ⟨query, fragment⟩ character isInside
    rw [List.takeWhile_eq_self_iff.mpr fragment] at query
    exact isInPath_iff.mpr ⟨of_decide_eq_true (query character isInside),
      of_decide_eq_true (fragment character isInside)⟩
  · intro all
    have fragment : ∀ character ∈ rest, decide (character ≠ '#') = true :=
      fun character isInside =>
        decide_eq_true (isInPath_iff.mp (all character isInside)).2
    refine ⟨?_, fragment⟩
    rw [List.takeWhile_eq_self_iff.mpr fragment]
    exact fun character isInside =>
      decide_eq_true (isInPath_iff.mp (all character isInside)).1

/-! ## Addresses that go on -/

/-- However an address goes on behind the front of a path, it has the same host
and port, or it is none. -/
theorem exists_parse?_append (base : String) :
    ∃ found : Option (Url × List Char), ∀ further : String,
      (closing further.toList).head? = some '/' →
        parse? spelling? (base ++ ("/api" ++ further)) =
          found.map fun start =>
            start.1.goingOn (start.2 ++ closing further.toList) := by
  have isRead (further : String) :
      scheme? (cleaned (base ++ ("/api" ++ further))) =
        (scheme? (opening base.toList)).map fun (isSecure, after) =>
          (isSecure, after ++ "/api".toList ++ closing further.toList) := by
    have spelled : opening base.toList ++ "/api".toList
        ++ closing further.toList = opening base.toList
          ++ '/' :: (['a', 'p', 'i'] ++ closing further.toList) := by
      simp
    rw [cleaned_append, spelled, scheme?_append_slash]
    simp
  cases isScheme : scheme? (opening base.toList) with
  | none =>
      refine ⟨none, fun further _ => ?_⟩
      rw [parse?_eq, isRead, isScheme]
      rfl
  | some found =>
      obtain ⟨isSecure, after⟩ := found
      let rest := (after ++ "/api".toList).dropWhile isSlash
      refine ⟨(site? spelling? isSecure (rest.takeWhile isInAuthority)).map
        fun site => (site, rest.dropWhile isInAuthority),
        fun further isPath => ?_⟩
      rw [parse?_eq, isRead, isScheme, Option.map_some, Option.bind_some,
        Option.map_map]
      exact ofScheme?_append spelling? isSecure after isPath

end AgentPipeline.Url
