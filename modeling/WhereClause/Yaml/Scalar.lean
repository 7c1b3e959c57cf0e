import WhereClause.Yaml.Placed

/-!
# YAML scalars

A scalar is a text with a style and perhaps a tag. While its text is read, what separates the
characters is collected as a gap, and folded when the next character is there.

Headlines:
* `Draft.settle_of_spaces`: blanks within a line are kept.
* `Draft.settle_put`: a character goes behind what was written.
-/

namespace WhereClause.Yaml

/-- A scalar: its local tag, whether it is plain, and its text. -/
structure Scalar where
  tag : Option String
  isPlain : Bool
  text : String
  deriving Repr, DecidableEq

/-! ## Gaps -/

/-- What stands between two characters of a scalar: blanks of one line, or a break and the breaks
behind it. The first break is missing where a backslash takes it away. All come last first. -/
inductive Gap where
  | spaces (passed : List Char)
  | breaks (first : Option Char) (more : List Char)
  deriving Repr, DecidableEq

namespace Gap

/-- Whether nothing was passed. -/
def isEmpty : Gap → Bool
  | spaces passed => passed.isEmpty
  | breaks _ _ => false

/-- Whether a break was passed. -/
def isBroken : Gap → Bool
  | spaces _ => false
  | breaks _ _ => true

/-- The gap with one more blank or break. Blanks beside a break do not count. -/
def pass (c : Char) : Gap → Gap
  | spaces passed => if isBreak c then breaks (some c) [] else spaces (c :: passed)
  | breaks first more => if isBreak c then breaks first (c :: more) else breaks first more

/-- The text of a gap as it is written. -/
def literal : Gap → List Char
  | spaces passed => passed.reverse
  | breaks first more => first.toList ++ more.reverse

/-- The text that a gap stands for: a line feed in front joins two lines with a space, or gives way
to the breaks behind it. -/
def folded : Gap → List Char
  | breaks (some '\n') [] => [' ']
  | breaks (some '\n') more => more.reverse
  | g => g.literal

end Gap

/-! ## Drafts -/

/-- A scalar while it is read: its characters so far, last first, and the gap behind them. -/
structure Draft where
  written : List Char := []
  gap : Gap := .spaces []
  deriving Repr, DecidableEq

namespace Draft

/-- The text so far, without the gap behind it. -/
def text (d : Draft) : String := String.ofList d.written.reverse

/-- The draft with one more blank or break. -/
def pass (c : Char) (d : Draft) : Draft := { d with gap := d.gap.pass c }

/-- The draft with the text of its gap written. -/
def settle (d : Draft) : Draft := { written := d.gap.folded.reverse ++ d.written }

/-- The draft with one more character. -/
def put (c : Char) (d : Draft) : Draft := { written := c :: d.settle.written }

variable {d : Draft}

theorem settle_put (c : Char) : (d.put c).settle.written = c :: d.settle.written := rfl

theorem settle_of_spaces {passed : List Char} (hd : d.gap = .spaces passed) :
    d.settle.written = passed ++ d.written := by
  rw [settle, hd]
  simp [Gap.folded, Gap.literal]

end Draft

end WhereClause.Yaml
