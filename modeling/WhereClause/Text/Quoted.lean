/-!
# Quoted text

A quoted literal stands between two quotes, and a quote inside it is written twice. Text constants
use `'` and column names `"`.

Headlines:
* `scan_enclose`: a scanner reads back exactly the text and stops exactly behind the literal,
  whatever follows, unless a quote follows.
* `mem_enclose`: nothing but quotes is added.
-/

namespace WhereClause.Text.Quoted

/-- The characters of `s` with every `q` written twice. -/
def doubled (q : Char) : List Char → List Char
  | [] => []
  | c :: s => if c = q then q :: q :: doubled q s else c :: doubled q s

/-- The quoted literal of `s`. -/
def enclose (q : Char) (s : List Char) : List Char :=
  q :: (doubled q s ++ [q])

/-- The body of a literal up to its closing quote, and what follows it. A text that ends first is
refused. -/
def scanBody (q : Char) : List Char → Option (List Char × List Char)
  | [] => none
  | [c] => if c = q then some ([], []) else none
  | c :: d :: s =>
    if c = q then
      if d = q then (scanBody q s).map fun r => (q :: r.1, r.2)
      else some ([], d :: s)
    else (scanBody q (d :: s)).map fun r => (c :: r.1, r.2)

/-- Reads a quoted literal from the front: its text, and what follows it. -/
def scan (q : Char) : List Char → Option (List Char × List Char)
  | [] => none
  | c :: s => if c = q then scanBody q s else none

theorem scanBody_doubled (q : Char) (s rest : List Char) (h : rest.head? ≠ some q) :
    scanBody q (doubled q s ++ q :: rest) = some (s, rest) := by
  induction s with
  | nil =>
    cases rest with
    | nil => simp [doubled, scanBody]
    | cons d rest =>
      have hd : d ≠ q := fun e => h (by simp [e])
      simp [doubled, scanBody, hd]
  | cons c s ih =>
    by_cases hc : c = q
    · subst hc
      simp [doubled, scanBody, ih]
    · have hstep : ∀ t : List Char, t ≠ [] →
          scanBody q (c :: t) = (scanBody q t).map fun r => (c :: r.1, r.2) := by
        intro t ht
        cases t with
        | nil => exact absurd rfl ht
        | cons d t => simp [scanBody, hc]
      simp only [doubled, if_neg hc, List.cons_append]
      rw [hstep _ (by simp), ih]
      rfl

/-- **Quoted text is self-delimiting**: the scanner returns the text and leaves the rest. -/
theorem scan_enclose (q : Char) (s rest : List Char) (h : rest.head? ≠ some q) :
    scan q (enclose q s ++ rest) = some (s, rest) := by
  simp only [enclose, List.cons_append, List.append_assoc, List.nil_append, scan, if_pos]
  exact scanBody_doubled q s rest h

theorem enclose_injective (q : Char) {s t : List Char} (h : enclose q s = enclose q t) : s = t := by
  have hs := scan_enclose q s [] (by simp)
  have ht := scan_enclose q t [] (by simp)
  rw [h, ht] at hs
  simpa using hs.symm

theorem mem_doubled {q c : Char} {s : List Char} (h : c ∈ doubled q s) : c = q ∨ c ∈ s := by
  induction s with
  | nil => exact absurd h List.not_mem_nil
  | cons d s ih =>
    by_cases hd : d = q
    · simp only [doubled, if_pos hd, List.mem_cons] at h ⊢
      grind
    · simp only [doubled, if_neg hd, List.mem_cons] at h ⊢
      grind

/-- A literal has no characters but its quotes and those of the text. -/
theorem mem_enclose {q c : Char} {s : List Char} (h : c ∈ enclose q s) : c = q ∨ c ∈ s := by
  simp only [enclose, List.mem_cons, List.mem_append, List.not_mem_nil, or_false] at h
  rcases h with h | h | h
  · exact Or.inl h
  · exact mem_doubled h
  · exact Or.inl h

end WhereClause.Text.Quoted

namespace WhereClause.Text

/-- A text constant: `'it''s'`. -/
def quoted (s : String) : String := String.ofList (Quoted.enclose '\'' s.toList)

/-- A column name: `"odd""name"`. -/
def identifier (s : String) : String := String.ofList (Quoted.enclose '"' s.toList)

@[simp] theorem toList_quoted (s : String) : (quoted s).toList = Quoted.enclose '\'' s.toList := by
  simp [quoted]

@[simp] theorem toList_identifier (s : String) :
    (identifier s).toList = Quoted.enclose '"' s.toList := by
  simp [identifier]

end WhereClause.Text
