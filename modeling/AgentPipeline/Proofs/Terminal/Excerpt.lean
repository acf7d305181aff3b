import AgentPipeline.Proofs.Text.Words
import AgentPipeline.Terminal.Report

/-!
# Excerpts

An excerpt shows the words of a text in one line.  A line that is too long
ends with an ellipsis; the cut leaves a line, also where it falls behind a
space, so that an excerpt is its own excerpt.
Main statement: `excerpts_excerpt`.
-/

namespace AgentPipeline.Text

/-- What is shown of a line: all of it where it fits, otherwise its beginning
with an ellipsis for the rest. -/
structure Shortens (width : Nat) (line shown : List Char) : Prop where
  whole : line.length ≤ width → shown = line
  cut : width < line.length → shown = line.take (width - 1) ++ [ellipsis]

/-- A line with what fits of the words of a text. -/
structure Excerpts (text : String) (width : Nat) (shown : String) : Prop where
  fits : shown.length ≤ width
  isLine : IsLine shown.toList
  shortens : ∃ found, HasWords text.toList found ∧
    Shortens width ([' '].intercalate found) shown.toList

theorem isWord_ellipsis : IsWord [ellipsis] := .singleton (by decide)

theorem IsLine.cut {line : List Char} (isLine : IsLine line) (count : Nat) :
    IsLine (line.take count ++ [ellipsis]) where
  toIsSpaced := by
    have taken : IsSpaced (line.take count) :=
      isLine.toIsSpaced.of_infix (List.take_prefix count line).isInfix
    exact taken.append isWord_ellipsis.isLine.toIsSpaced
      (.inr isWord_ellipsis.startsClear)
  start := by
    have clear : StartsClear (line.take count) := by
      have whole := isLine.start
      rw [← List.take_append_drop count line] at whole
      exact whole.of_append
    cases taken : line.take count with
    | nil => exact isWord_ellipsis.startsClear
    | cons first rest =>
        rw [taken] at clear
        exact clear.append_right (List.cons_ne_nil _ _) _
  ending := by
    rw [List.reverse_append]
    exact isWord_ellipsis.startsClear_append _

namespace Shortens

variable {width : Nat} {line shown : List Char}

theorem isLine (shortens : Shortens width line shown) (isLine : IsLine line) :
    IsLine shown := by
  rcases Nat.lt_or_ge width line.length with long | short
  · rw [shortens.cut long]
    exact isLine.cut _
  · rw [shortens.whole short]
    exact isLine

theorem length_le (shortens : Shortens width line shown)
    (hasRoom : 1 ≤ width) : shown.length ≤ width := by
  rcases Nat.lt_or_ge width line.length with long | short
  · rw [shortens.cut long, List.length_append, List.length_take,
      List.length_singleton]
    omega
  · rwa [shortens.whole short]

end Shortens

theorem shortens_excerpt (text : String) (width : Nat) :
    Shortens width (singleSpaced text) (excerpt text width).toList where
  whole short := by
    rw [excerpt, if_pos short, String.toList_ofList]
  cut long := by
    rw [excerpt, if_neg (Nat.not_le.mpr long), String.toList_ofList]

theorem excerpt_of_isLine {text : String} {width : Nat}
    (isLine : IsLine text.toList) (fits : text.length ≤ width) :
    excerpt text width = text := by
  have same : singleSpaced text = text.toList :=
    singleSpaced_eq_toList_iff.mpr isLine
  have short : (singleSpaced text).length ≤ width := by
    rwa [same, String.length_toList]
  rw [← String.toList_inj, (shortens_excerpt text width).whole short, same]

theorem excerpts_excerpt (text : String) (width : Nat) (hasRoom : 1 ≤ width) :
    let shown := excerpt text width
    Excerpts text width shown ∧ excerpt shown width = shown := by
  intro shown
  have shortens := shortens_excerpt text width
  have isLine : IsLine shown.toList :=
    shortens.isLine (isLine_singleSpaced text)
  have fits : shown.length ≤ width := by
    rw [← String.length_toList]
    exact shortens.length_le hasRoom
  refine ⟨⟨fits, isLine, words text.toList, hasWords_words _, shortens⟩, ?_⟩
  exact excerpt_of_isLine isLine fits

/-- Here the cut falls behind a space. -/
theorem excerpts_excerpt_behindSpace :
    1 ≤ 3 ∧ excerpt "\ta\u2003\nbcd" 3 = "a …" ∧
      Excerpts "\ta\u2003\nbcd" 3 "a …" ∧ excerpt "a …" 3 = "a …" := by
  have shown : excerpt "\ta\u2003\nbcd" 3 = "a …" := by decide
  have excerpts := excerpts_excerpt "\ta\u2003\nbcd" 3 (by decide)
  rw [shown] at excerpts
  exact ⟨by decide, shown, excerpts⟩

end AgentPipeline.Text
