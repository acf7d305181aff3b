/-!
# Styled text

Text on a terminal is styled by an escape sequence in front of it and a reset
behind it.  Without colors no sequence is written.
-/

namespace AgentPipeline

inductive Color where
  | red
  | green
  | yellow
  | cyan
deriving DecidableEq, Inhabited, Repr

namespace Color

def code : Color → String
  | .red => "31"
  | .green => "32"
  | .yellow => "33"
  | .cyan => "36"

end Color

/-- The look of a text; at least one of its parts is set in every look that is
used. -/
structure Style where
  bold : Bool
  dimmed : Bool
  color : Option Color
deriving DecidableEq, Inhabited, Repr

namespace Style

def plain : Style := ⟨false, false, none⟩

def boldface : Style := ⟨true, false, none⟩

def faint : Style := ⟨false, true, none⟩

def colored (color : Color) : Style := ⟨false, false, some color⟩

def boldColored (color : Color) : Style := ⟨true, false, some color⟩

/-- The codes of a style, the color last. -/
def codes (style : Style) : List String :=
  (if style.bold then ["1"] else []) ++ (if style.dimmed then ["2"] else [])
    ++ (style.color.map Color.code).toList

/-- The sequence that sets the style. -/
def opening (style : Style) : String :=
  "\x1b[" ++ ";".intercalate style.codes ++ "m"

/-- The sequence that ends any style. -/
def reset : String := "\x1b[0m"

/-- The text in the style.  A reset inside the text ends the style too, so the
style is set again behind it. -/
def apply (style : Style) (colors : Bool) (text : String) : String :=
  if colors && style ≠ plain then
    style.opening ++ text.replace reset (reset ++ style.opening) ++ reset
  else text

end Style

end AgentPipeline
