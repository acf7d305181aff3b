/-!
# Blank characters and words

A blank is a character with the Unicode property `White_Space`.  Texts are
trimmed of blanks, and the words of a text are its longest runs of
characters that are not blank.
-/

namespace AgentPipeline.Text

/-- The characters with the Unicode property `White_Space`. -/
def isBlank (character : Char) : Bool :=
  let code := character.toNat
  (0x9 ≤ code && code ≤ 0xD) || code == 0x20 || code == 0x85 || code == 0xA0
    || code == 0x1680 || (0x2000 ≤ code && code ≤ 0x200A)
    || code == 0x2028 || code == 0x2029 || code == 0x202F || code == 0x205F
    || code == 0x3000

/-- A text without any character that is not blank. -/
def isBlankText (text : String) : Bool :=
  text.toList.all isBlank

/-- The characters without the blanks in front. -/
def trimStart (characters : List Char) : List Char :=
  characters.dropWhile isBlank

/-- The characters without the blanks in front and behind. -/
def trimCharacters (characters : List Char) : List Char :=
  (trimStart (trimStart characters).reverse).reverse

/-- The text without the blanks in front and behind. -/
def trim (text : String) : String :=
  String.ofList (trimCharacters text.toList)

/-- The words of a character list: its longest runs without a blank. -/
def words : List Char → List (List Char)
  | [] => []
  | first :: rest =>
      if isBlank first then words rest
      else
        match rest with
        | [] => [[first]]
        | next :: _ =>
            if isBlank next then [first] :: words rest
            else
              match words rest with
              | [] => [[first]]
              | word :: others => (first :: word) :: others

/-- The words of a text joined by single spaces. -/
def singleSpaced (text : String) : List Char :=
  (words text.toList).intersperse [' '] |>.flatten

/-- The letters `A` to `Z` in lower case, all other characters unchanged. -/
def lowerAscii (text : String) : String :=
  String.ofList (text.toList.map Char.toLower)

/-- The text without the given character at its end. -/
def dropTrailing (character : Char) (text : String) : String :=
  String.ofList ((text.toList.reverse.dropWhile (· == character)).reverse)

end AgentPipeline.Text
