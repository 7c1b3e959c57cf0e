/-!
# Blank characters

The characters with the Unicode property White_Space, and trimming by them.

Headlines:
* `trimStart_append_of_blank`, `trimEnd_append_of_blank`: trimming removes blanks from its end
  and keeps all else.
-/

namespace WhereClause.Text

/-- The property White_Space: five control characters, the space, and the separators. -/
def isBlank (c : Char) : Bool :=
  let n := c.toNat
  (0x09 ≤ n && n ≤ 0x0D) || n == 0x20 || n == 0x85 || n == 0xA0 || n == 0x1680 ||
  (0x2000 ≤ n && n ≤ 0x200A) || n == 0x2028 || n == 0x2029 || n == 0x202F || n == 0x205F ||
  n == 0x3000

/-- The text without the blanks at its front. -/
def trimStart (s : String) : String := String.ofList (s.toList.dropWhile isBlank)

/-- The text without the blanks at its end. -/
def trimEnd (s : String) : String :=
  String.ofList (s.toList.reverse.dropWhile isBlank).reverse

/-- The text without the blanks at both ends. -/
def trim (s : String) : String := trimEnd (trimStart s)

theorem trimStart_append_of_blank {b : List Char} (hb : ∀ c ∈ b, isBlank c = true) (s : String) :
    trimStart (String.ofList (b ++ s.toList)) = trimStart s := by
  simp only [trimStart, String.toList_ofList]
  congr 1
  induction b with
  | nil => rfl
  | cons c b ih =>
    rw [List.cons_append, List.dropWhile_cons_of_pos (hb c List.mem_cons_self)]
    exact ih fun d hd => hb d (List.mem_cons_of_mem c hd)

theorem trimEnd_append_of_blank {b : List Char} (hb : ∀ c ∈ b, isBlank c = true) (s : String) :
    trimEnd (String.ofList (s.toList ++ b)) = trimEnd s := by
  have h := trimStart_append_of_blank (b := b.reverse)
    (fun c hc => hb c (List.mem_reverse.mp hc)) (String.ofList s.toList.reverse)
  simp only [trimStart, String.toList_ofList] at h
  simp only [trimEnd, String.toList_ofList, List.reverse_append]
  rw [String.ofList_inj] at h
  rw [h]

end WhereClause.Text
