import WhereClause.Text.LetterCase.Mapping
import WhereClause.Text.LetterCase.Cased

/-!
# Letter case

The full mappings of a text to upper and to lower case, independent of any language. A character
may become several, so `ß` is `SS` in upper case. A capital sigma at the end of a word becomes a
final sigma in lower case.

Headlines:
* `lower_of_no_sigma`: lower case is taken character by character where there is no capital sigma.
-/

namespace WhereClause.Text

namespace LetterCase

/-- The mapping of one character by runs and special cases; a character in neither stays. -/
def mapChar (runs : List Run) (specials : List (Nat × List Nat)) (c : Char) : List Char :=
  match specials.lookup c.toNat with
  | some image => image.map Char.ofNat
  | none => [((runs.findSome? fun r => r.apply? c.toNat).map Char.ofNat).getD c]

/-- The upper case of a character. -/
def upperChar : Char → List Char := mapChar upperRuns upperSpecials

/-- The lower case of a character outside of any word. -/
def lowerChar : Char → List Char := mapChar lowerRuns lowerSpecials

/-- Whether the nearest character that is not ignorable has letter case. -/
def meetsCased (s : List Char) : Bool :=
  match s.dropWhile isIgnorable with
  | [] => false
  | c :: _ => isCased c

/-- Lower case, where `before` holds the characters already passed, the last one first. A capital
sigma is final when a cased character comes before it and none after it. -/
def lower (before : List Char) : List Char → List Char
  | [] => []
  | c :: s =>
    (if c = 'Σ' then if meetsCased before && !meetsCased s then ['ς'] else ['σ']
      else lowerChar c) ++ lower (c :: before) s

theorem lower_of_no_sigma (before s : List Char) (h : 'Σ' ∉ s) :
    lower before s = s.flatMap lowerChar := by
  induction s generalizing before with
  | nil => rfl
  | cons c s ih =>
    have hc : c ≠ 'Σ' := fun e => h (e ▸ List.mem_cons_self)
    rw [lower, if_neg hc, ih _ fun hs => h (List.mem_cons_of_mem c hs), List.flatMap_cons]

end LetterCase

/-- The text in upper case. -/
def toUpper (s : String) : String := String.ofList (s.toList.flatMap LetterCase.upperChar)

/-- The text in lower case. -/
def toLower (s : String) : String := String.ofList (LetterCase.lower [] s.toList)

end WhereClause.Text
