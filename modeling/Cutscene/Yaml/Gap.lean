import Cutscene.Yaml.Cursor

/-!
# Gaps between words

Words of plain and quoted text may stand on several lines. A gap within a line is part of the
text as it is. In a gap over several lines the blanks do not count, a single line feed joins
the words by a space, and every further line break stands for itself.
-/

namespace Cutscene

namespace Yaml

/-- What stands between two words: blanks, or line breaks, the first of them apart. A first
line break that has been escaped is not there. -/
inductive Gap where
  | blanks (chars : List Char)
  | breaks (first : Option Char) (further : List Char)
deriving DecidableEq

namespace Gap

/-- No gap at all. -/
def nothing : Gap := .blanks []

/-- The gap goes over a line's end. -/
def isBroken : Gap → Bool
  | blanks _ => false
  | breaks .. => true

/-- What a gap stands for. -/
def text : Gap → List Char
  | blanks chars => chars
  | breaks (some '\n') [] => [' ']
  | breaks (some '\n') further => further
  | breaks first further => first.toList ++ further

/-- A gap that goes on with a blank. -/
def addBlank (b : Char) : Gap → Gap
  | blanks chars => .blanks (chars ++ [b])
  | breaks first further => .breaks first further

/-- A gap that goes on with a line break. -/
def addBreak (b : Char) : Gap → Gap
  | blanks _ => .breaks (some b) []
  | breaks first further => .breaks first (further ++ [b])

/-- Goes on with a gap to its end. At the beginning of a line a tab may not stand left of
`margin`. -/
def read? (margin : Nat) (gap : Gap) (c : Cursor) : Option (Gap × Cursor) :=
  match _h : c.lineBreak? with
  | some (b, next) => read? margin (gap.addBreak b) next
  | none =>
    match _hr : c.rest with
    | [] => some (gap, c)
    | b :: _ =>
      if isBlank b then
        if gap.isBroken && c.column < margin && b == '\t' then none
        else read? margin (gap.addBlank b) (c.skip 1)
      else some (gap, c)
termination_by c.rest.length
decreasing_by
  · exact Cursor.lineBreak?_length _h
  · simp [Cursor.skip, _hr]

/-- Two words on neighbouring lines are joined by a space. -/
example : (Gap.nothing.addBlank ' ' |>.addBreak '\n' |>.addBlank ' ').text = [' '] := rfl

/-- An empty line between two words stands for itself. -/
example : (Gap.nothing.addBreak '\n' |>.addBreak '\n').text = ['\n'] := rfl

end Gap

end Yaml

end Cutscene
