import WhereClause.Yaml.Document

/-!
# Documents of lines

Settings are commonly written line by line, each a word, a colon, and a value, which is a word again
or any text between single quotes. Such a document is read as what was written. A line is read in
three steps; each leaves the layout in a state that is known, and behind the line the layout is
where a line starts again, so that all lines are read by induction.

Headlines:
* `Layout.tokens?_line`: what the three steps of a line do to the layout.
* `Token.ofText?_lines`: the tokens of a document of lines.
* `mapping?_lines`: a document of lines is read as its entries.
-/

namespace WhereClause.Yaml

open Placed

/-! ## Lines -/

/-- A line of a document: a key, and a value that may be quoted. -/
structure Line where
  key : List Char
  value : List Char
  isQuoted : Bool

namespace Line

/-- The value as it is written. -/
def valueText (l : Line) : List Char :=
  if l.isQuoted then Text.Quoted.enclose '\'' l.value else l.value

/-- The line as it is written. -/
def text (l : Line) : List Char := l.key ++ ':' :: ' ' :: l.valueText

/-- A line that can be read: its key is a word, after at most 1024 characters of which the colon
comes, and its value is a word unless it is quoted. -/
structure IsReadable (l : Line) : Prop where
  key : IsWord l.key
  length_key : l.key.length ≤ 1024
  word : l.isQuoted = false → IsWord l.value
  quoted : l.isQuoted = true → ∀ c ∈ l.value, isLineChar c = true

/-- The tokens of the line. -/
def tokens (l : Line) : List Token :=
  [.key, .scalar true (String.ofList l.key), .value, .scalar (!l.isQuoted) (String.ofList l.value)]

/-- Lines as they are written below one another. The last one may be ended too. -/
def document (isEnded : Bool) : List Line → List Char
  | [] => []
  | [l] => l.text ++ if isEnded then ['\n'] else []
  | l :: m :: ls => l.text ++ '\n' :: document isEnded (m :: ls)

/-- The entry that the line is. -/
def entry (l : Line) : Entry :=
  ⟨⟨none, true, String.ofList l.key⟩, ⟨none, !l.isQuoted, String.ofList l.value⟩⟩

end Line

/-! ## Ends of lines -/

variable {line column n : Nat} {s t w : List Char}

theorem IsWord.head? (hw : IsWord w) : (w ++ s).head?.all (!isSeparator ·) = true := by
  obtain ⟨c, u, rfl, hc⟩ := hw.opening
  simp [isSeparator_of_isWordChar (isWordChar_of_isOpening hc)]

/-- The text goes on where a line ends: there is nothing more, or a break with a text behind it that
is not indented. -/
inductive EndsLine : List Char → List Char → Prop
  | last : EndsLine [] []
  | next {s : List Char} (hs : s.head?.all (!isSeparator ·) = true) : EndsLine ('\n' :: s) s

/-- A document is its first line and the document of the others, where that line ends. -/
theorem Line.exists_document_cons (isEnded : Bool) (l : Line) {ls : List Line}
    (hls : ∀ m ∈ ls, m.IsReadable) :
    ∃ t, document isEnded (l :: ls) = l.text ++ t ∧ EndsLine t (document isEnded ls) := by
  cases ls with
  | nil =>
    cases isEnded with
    | false => exact ⟨[], rfl, .last⟩
    | true => exact ⟨['\n'], rfl, .next rfl⟩
  | cons m ls =>
    refine ⟨_, rfl, .next ?_⟩
    have hhead := fun u => (hls m List.mem_cons_self).key.head? (s := u)
    cases ls with
    | nil =>
      rw [document, text, List.append_assoc]
      exact hhead _
    | cons k ls =>
      rw [document, text, List.append_assoc]
      exact hhead _

/-! ## Tokens -/

namespace Layout

/-- The layout where a line starts, outside the mapping or in it. -/
def atLine (indent : Option Nat) (done : List Token) : Layout := { indent, tokens := done }

/-- The layout behind a word that starts a line. -/
def behindKey (indent : Option Nat) (line : Nat) (w : List Char) (done : List Token) : Layout :=
  { indent, keyAllowed := false, tokens := done,
    candidate := some ⟨indent == some 0, line, 0, [.scalar true (String.ofList w)]⟩ }

/-- The layout behind the colon of an entry, where a key may start once a break was passed. -/
def behindColon (done : List Token) (broke : Bool) : Layout :=
  { indent := some 0, keyAllowed := broke, tokens := done }

/-- The tokens that the first colon adds to those of its line. -/
def opening (indent : Option Nat) : List Token := if indent.isSome then [] else [.mappingStart]

/-- Behind a line a key may start. -/
theorem tokens?_end (line column : Nat) {done : List Token} (h : EndsLine t s) :
    tokens? n (behindColon done false) (place line column [] t) =
      tokens? n (atLine (some 0) done) (place (line + 1) 0 [] s) := by
  cases h with
  | last => cases n <;> rfl
  | next =>
    cases n with
    | zero => rfl
    | succ n =>
      rw [place_cons, if_pos (by decide), tokens?, passGap, tokens?]
      rfl

/-- **The key of a line** is a word that may turn out to be one. -/
theorem tokens?_key {indent : Option Nat} {done : List Token} (hindent : indent.all (· == 0) = true)
    (hw : IsWord w) :
    tokens? (n + 1) (atLine indent done) (place line 0 [] (w ++ ':' :: ' ' :: s)) =
      tokens? n (behindKey indent line w done) (place line w.length [] (':' :: ' ' :: s)) := by
  obtain ⟨c, u, rfl, hc⟩ := hw.opening
  have hplain : ∀ k, plain? false k {} (place line 0 [] (c :: u ++ ':' :: ' ' :: s)) =
      some ⟨String.ofList (c :: u), false, place line (c :: u).length [] (':' :: ' ' :: s)⟩ := by
    intro k
    rw [plain?_word _ _ hw.all rfl, plain?_colon rfl, Nat.zero_add]
    simp [Draft.text]
  have hbreak := isBreak_of_isSeparator (isSeparator_of_isWordChar (isWordChar_of_isOpening hc))
  rw [List.cons_append, place_cons, hbreak, if_neg Bool.false_ne_true] at hplain ⊢
  refine tokens?_of_step? (passGap_of_isOpening (p := ⟨c, line, 0⟩) hc true _)
    (expire?_of_no_candidate rfl) (closeDeeper_of_first hindent) ?_
  rw [step?_of_isOpening (p := ⟨c, line, 0⟩) rfl hc, hplain]
  rfl

/-- **The colon of a line** makes a key of the word in front of it. -/
theorem tokens?_colon {indent : Option Nat} {done : List Token}
    (hindent : indent.all (· == 0) = true) (hcolumn : column ≤ 1024) :
    tokens? (n + 1) (behindKey indent line w done) (place line column [] (':' :: ' ' :: s)) =
      tokens? n (behindColon (.value :: .scalar true (String.ofList w) :: .key ::
        (opening indent ++ done)) false) (place line (column + 1) [] (' ' :: s)) := by
  rw [place_cons, if_neg (by decide)]
  refine tokens?_of_step? rfl ?_ (closeDeeper_of_first hindent) ?_
  · simp [expire?, behindKey, Nat.not_lt.mpr hcolumn]
  · have hseparator : atSeparator (place line (column + 1) [] (' ' :: s)) = true := by
      rw [place_cons]
      rfl
    rw [step?_colon rfl hseparator]
    cases indent with
    | none => rfl
    | some k =>
      have hk : k = 0 := by simpa using hindent
      rw [hk]
      rfl

/-- A word behind the colon is read where `plain?` reads it. -/
theorem tokens?_word {done : List Token} {broke : Bool} {rest : List Placed} (hw : IsWord w)
    (hplain : plain? false 1 {} (place line column [] (w ++ t)) =
      some ⟨String.ofList w, broke, rest⟩) :
    tokens? (n + 1) (behindColon done false) (place line column [] (w ++ t)) =
      tokens? n (behindColon (.scalar true (String.ofList w) :: done) broke) rest := by
  obtain ⟨c, u, rfl, hc⟩ := hw.opening
  have hbreak := isBreak_of_isSeparator (isSeparator_of_isWordChar (isWordChar_of_isOpening hc))
  rw [List.cons_append, place_cons, hbreak, if_neg Bool.false_ne_true] at hplain ⊢
  refine tokens?_of_step? (passGap_of_isOpening (p := ⟨c, line, column⟩) hc false _)
    (expire?_of_no_candidate rfl) (closeDeeper_of_first rfl) ?_
  rw [step?_of_isOpening (p := ⟨c, line, column⟩) rfl hc]
  show (plain? false 1 {} _).bind _ = _
  rw [hplain]
  rfl

theorem tokens?_plain {done : List Token} (hw : IsWord w) (h : EndsLine t s) :
    tokens? (n + 1) (behindColon done false) (place line column [] (w ++ t)) =
      tokens? n (atLine (some 0) (.scalar true (String.ofList w) :: done))
        (place (line + 1) 0 [] s) := by
  have htext : Draft.text ⟨w.reverse ++ [], .spaces []⟩ = String.ofList w := by simp [Draft.text]
  have hplain := plain?_word line column (n := 1) (s := t) (d := {}) hw.all rfl
  cases h with
  | last =>
    rw [plain?_end rfl, htext] at hplain
    exact (tokens?_word hw hplain).trans (tokens?_end line column .last)
  | next hs =>
    rw [plain?_newline rfl hs, htext] at hplain
    exact tokens?_word hw hplain

theorem tokens?_quoted {done : List Token} (hw : ∀ c ∈ w, isLineChar c = true) (h : EndsLine t s) :
    tokens? (n + 1) (behindColon done false)
        (place line column [] (Text.Quoted.enclose '\'' w ++ t)) =
      tokens? n (atLine (some 0) (.scalar false (String.ofList w) :: done))
        (place (line + 1) 0 [] s) := by
  have henclose : Text.Quoted.enclose '\'' w ++ t =
      '\'' :: (Text.Quoted.doubled '\'' w ++ '\'' :: t) := by
    simp [Text.Quoted.enclose]
  have hend : t.head? ≠ some '\'' := by cases h <;> simp
  obtain ⟨k, hk⟩ := singleQuoted?_doubled line (d := {}) (s := t) hw (Nat.succ_pos column) rfl hend
  rw [henclose, place_cons, if_neg (by decide), ← tokens?_end line k h]
  refine tokens?_of_step? rfl (expire?_of_no_candidate rfl) (closeDeeper_of_first rfl) ?_
  rw [step?_quote rfl, hk]
  rfl

end Layout

/-- A word may be quoted. -/
theorem IsWord.isLineChar_of_mem (hw : IsWord w) : ∀ c ∈ w, isLineChar c = true := by
  intro c hc
  have hword := hw.all c hc
  rw [isLineChar, isKept_of_isWordChar hword,
    isBreak_of_isSeparator (isSeparator_of_isWordChar hword)]
  rfl

/-- **A line is read in three steps**, behind which the layout is where a line starts. -/
theorem Layout.tokens?_line {l : Line} (hl : l.IsReadable) {indent : Option Nat}
    (hindent : indent.all (· == 0) = true) (done : List Token) (h : EndsLine t s) :
    tokens? (n + 3) (atLine indent done) (place line 0 [] (l.text ++ t)) =
      tokens? n (atLine (some 0) (l.tokens.reverse ++ (opening indent ++ done)))
        (place (line + 1) 0 [] s) := by
  have htext : l.text ++ t = l.key ++ ':' :: ' ' :: (l.valueText ++ t) := by
    simp [Line.text]
  rw [htext, tokens?_key hindent hl.key, tokens?_colon hindent hl.length_key, tokens?_space]
  unfold Line.valueText Line.tokens
  cases hquoted : l.isQuoted with
  | false => exact tokens?_plain (hl.word hquoted) h
  | true => exact tokens?_quoted (hl.quoted hquoted) h

variable {ls : List Line}

/-- **A list of lines** adds their tokens, and its end that of the mapping. -/
theorem Layout.tokens?_lines (isEnded : Bool) (hls : ∀ l ∈ ls, l.IsReadable) (done : List Token)
    (hn : 3 * ls.length < n) :
    tokens? n (atLine (some 0) done) (place line 0 [] (Line.document isEnded ls)) =
      some (done.reverse ++ ls.flatMap Line.tokens ++ [.mappingEnd]) := by
  induction ls generalizing line n done with
  | nil =>
    obtain ⟨n, rfl⟩ : ∃ k, n = k + 1 := ⟨n - 1, by omega⟩
    simp [Line.document, place, tokens?, passGap, atLine, finish?, close, emit, abandon?]
  | cons l ls ih =>
    obtain ⟨n, rfl⟩ : ∃ k, n = k + 3 := ⟨n - 3, by simp at hn; omega⟩
    have hls' := fun m hm => hls m (List.mem_cons_of_mem l hm)
    obtain ⟨t, ht, hend⟩ := Line.exists_document_cons isEnded l hls'
    rw [ht, tokens?_line (hls l List.mem_cons_self) rfl done hend,
      ih hls' _ (by simp at hn; omega)]
    simp [opening]

/-! ## Texts -/

theorem Line.isKept_text {l : Line} (hl : l.IsReadable) : ∀ c ∈ l.text, isKept c = true := by
  intro c hc
  have hvalue : c ∈ l.valueText → isKept c = true := by
    intro hc
    unfold valueText at hc
    cases hquoted : l.isQuoted with
    | false =>
      rw [hquoted] at hc
      exact isKept_of_isWordChar ((hl.word hquoted).all c hc)
    | true =>
      rw [hquoted] at hc
      rcases Text.Quoted.mem_enclose hc with rfl | hc
      · decide
      · exact isKept_of_isLineChar (hl.quoted hquoted c hc)
  simp only [text, List.mem_append, List.mem_cons] at hc
  rcases hc with hc | rfl | rfl | hc
  · exact isKept_of_isWordChar (hl.key.all c hc)
  · decide
  · decide
  · exact hvalue hc

theorem EndsLine.isKept (h : EndsLine t s) (hs : ∀ c ∈ s, isKept c = true) :
    ∀ c ∈ t, isKept c = true := by
  cases h with
  | last => exact hs
  | next =>
    intro c hc
    rcases List.mem_cons.mp hc with rfl | hc
    · decide
    · exact hs c hc

theorem EndsLine.length_le (h : EndsLine t s) : s.length ≤ t.length := by
  cases h with
  | last => exact Nat.le_refl 0
  | next => exact Nat.le_succ _

theorem Line.isKept_document (isEnded : Bool) (hls : ∀ l ∈ ls, l.IsReadable) :
    ∀ c ∈ document isEnded ls, isKept c = true := by
  induction ls with
  | nil => exact nofun
  | cons l ls ih =>
    have hls' := fun m hm => hls m (List.mem_cons_of_mem l hm)
    obtain ⟨t, ht, hend⟩ := exists_document_cons isEnded l hls'
    intro c hc
    rw [ht] at hc
    rcases List.mem_append.mp hc with hc | hc
    · exact isKept_text (hls l List.mem_cons_self) c hc
    · exact hend.isKept (ih hls') c hc

/-- Each step that reads a line takes a character of it at least. -/
theorem Line.length_document (isEnded : Bool) (hls : ∀ l ∈ ls, l.IsReadable) :
    3 * ls.length ≤ (document isEnded ls).length := by
  induction ls with
  | nil => exact Nat.le_refl 0
  | cons l ls ih =>
    have hls' := fun m hm => hls m (List.mem_cons_of_mem l hm)
    obtain ⟨t, ht, hend⟩ := exists_document_cons isEnded l hls'
    have hlength := ih hls'
    have htail := hend.length_le
    obtain ⟨c, u, hkey, -⟩ := (hls l List.mem_cons_self).key.opening
    rw [ht]
    simp only [text, hkey, List.length_append, List.length_cons]
    omega

/-- **The tokens of a document of lines.** -/
theorem Token.ofText?_lines (isEnded : Bool) {l : Line} (hls : ∀ m ∈ l :: ls, m.IsReadable) :
    Token.ofText? (String.ofList (Line.document isEnded (l :: ls))) =
      some (.mappingStart :: (l :: ls).flatMap Line.tokens ++ [.mappingEnd]) := by
  have hls' := fun m hm => hls m (List.mem_cons_of_mem l hm)
  have hlength := Line.length_document isEnded hls
  rw [List.length_cons] at hlength
  obtain ⟨n, hn⟩ : ∃ n, (Line.document isEnded (l :: ls)).length + 1 = n + 3 :=
    ⟨(Line.document isEnded (l :: ls)).length - 2, by omega⟩
  obtain ⟨t, ht, hend⟩ := Line.exists_document_cons isEnded l hls'
  rw [Token.ofText?, Placed.ofText?_eq (Line.isKept_document isEnded hls)]
  show Layout.tokens? _ (Layout.atLine none []) _ = _
  rw [length_place, hn, ht, Layout.tokens?_line (hls l List.mem_cons_self) rfl [] hend,
    Layout.tokens?_lines isEnded hls' _ (by omega)]
  simp [Layout.opening]

/-! ## Entries -/

theorem blockEntries?_line (handles : List Handle) (l : Line) (done : List Entry) (s : List Token) :
    blockEntries? handles (n + 1) done (l.tokens ++ s) =
      blockEntries? handles n (l.entry :: done) s := by
  rfl

theorem blockEntries?_lines (handles : List Handle) (ls : List Line) (done : List Entry)
    (s : List Token) (hn : ls.length < n) :
    blockEntries? handles n done (ls.flatMap Line.tokens ++ .mappingEnd :: s) =
      some (done.reverse ++ ls.map Line.entry, s) := by
  induction ls generalizing n done with
  | nil =>
    obtain ⟨n, rfl⟩ : ∃ k, n = k + 1 := ⟨n - 1, by omega⟩
    simp [blockEntries?]
  | cons l ls ih =>
    obtain ⟨n, rfl⟩ : ∃ k, n = k + 1 := ⟨n - 1, by omega⟩
    rw [List.flatMap_cons, List.append_assoc, blockEntries?_line, ih _ (by simpa using hn)]
    simp

theorem Line.length_tokens (ls : List Line) : ls.length ≤ (ls.flatMap Line.tokens).length := by
  induction ls with
  | nil => exact Nat.le_refl 0
  | cons l ls ih =>
    simp only [List.flatMap_cons, List.length_append, List.length_cons, tokens] at ih ⊢
    omega

/-- **A document of lines is read as its entries.** -/
theorem mapping?_lines (isEnded : Bool) (hls : ∀ l ∈ ls, l.IsReadable) :
    mapping? (String.ofList (Line.document isEnded ls)) = some (ls.map Line.entry) := by
  cases ls with
  | nil => rfl
  | cons l ls =>
    rw [mapping?, Token.ofText?_lines isEnded hls, Option.bind_some, List.cons_append]
    apply document?_of_mappingStart
    rw [blockEntries?_lines]
    · rfl
    · rw [List.length_append]
      exact Nat.lt_succ_of_le (Line.length_tokens _)

end WhereClause.Yaml
