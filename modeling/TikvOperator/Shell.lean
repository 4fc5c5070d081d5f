import Mathlib.Data.List.Basic

/-!
# Shell words

The sysctl init container runs `sh -c <command>`, and the shell, not the container, cuts the
command into words. `readWords` is that cut, as POSIX token recognition makes it (Shell Command
Language, 2.2 Quoting and 2.3 Token Recognition), for a command of literal words: unquoted blanks
end a word, quotes and backslashes are removed and protect what they quote. It answers `none` when
a quote is left open or an operator, expansion, pattern or comment character stands unquoted, so
that the command is not one list of literal words; it never answers a wrong list.

## Main results

* `readWords_literal`, `readWords_blank`: a run of literal characters extends the word being
  read, and a blank ends it.
* `shellWords_literalWords`: literal words joined by single blanks are read back.
-/

namespace TikvOperator

namespace Shell

/-- The tab, the newline, the double quote, the single quote, the backslash and the backquote. -/
def tab : Char := Char.ofNat 9
def newline : Char := Char.ofNat 10
def doubleQuote : Char := Char.ofNat 34
def singleQuote : Char := Char.ofNat 39
def backslash : Char := Char.ofNat 92
def backquote : Char := Char.ofNat 96

/-- The characters that do not stand for themselves outside quotes: the blanks and the newline,
the quotes and the backslash, the operator characters, and the characters that start an expansion,
a pattern or a comment (`~` and `#` only at the start of a word, but they are left out wherever
they stand). -/
def specialChars : List Char :=
  [' ', tab, newline, doubleQuote, singleQuote, backslash, backquote,
    '|', '&', ';', '<', '>', '(', ')', '$', '*', '?', '[', '#', '~']

/-- A character the shell reads as itself outside quotes. -/
def isLiteral (c : Char) : Bool := !specialChars.contains c

/-- Where the reader stands: outside quotes, inside single or double quotes, or right after a
backslash outside quotes or inside double quotes. -/
inductive Mode
  | unquoted | single | double | escaped | escapedInDouble
deriving DecidableEq, Repr

/-- The word being read, as a list of one word or of none. -/
def flush (word : Option (List Char)) : List String := word.toList.map String.mk

/-- Token recognition of a command of literal words. `word` is the word being read, `none`
between words; a pair of quotes starts a word even when it encloses nothing. -/
def readWords : Mode → Option (List Char) → List Char → Option (List String)
  | .unquoted, word, [] => some (flush word)
  | .unquoted, word, c :: cs =>
    if c = ' ' ∨ c = tab then (flush word ++ ·) <$> readWords .unquoted none cs
    else if c = singleQuote then readWords .single (some (word.getD [])) cs
    else if c = doubleQuote then readWords .double (some (word.getD [])) cs
    else if c = backslash then readWords .escaped word cs
    else if isLiteral c then readWords .unquoted (some (word.getD [] ++ [c])) cs
    else none
  | .escaped, word, c :: cs =>
    if c = newline then readWords .unquoted word cs
    else readWords .unquoted (some (word.getD [] ++ [c])) cs
  | .single, word, c :: cs =>
    if c = singleQuote then readWords .unquoted word cs
    else readWords .single (some (word.getD [] ++ [c])) cs
  | .double, word, c :: cs =>
    if c = doubleQuote then readWords .unquoted word cs
    else if c = backslash then readWords .escapedInDouble word cs
    else if c = '$' ∨ c = backquote then none
    else readWords .double (some (word.getD [] ++ [c])) cs
  | .escapedInDouble, word, c :: cs =>
    if c = newline then readWords .double word cs
    else if c = '$' ∨ c = backquote ∨ c = doubleQuote ∨ c = backslash then
      readWords .double (some (word.getD [] ++ [c])) cs
    else readWords .double (some (word.getD [] ++ [backslash, c])) cs
  | .single, _, [] | .double, _, [] | .escaped, _, [] | .escapedInDouble, _, [] => none

/-- The words `sh -c s` runs. -/
def shellWords (s : String) : Option (List String) := readWords .unquoted none s.data

theorem isLiteral_ne {c : Char} (h : isLiteral c = true) :
    c ≠ ' ' ∧ c ≠ tab ∧ c ≠ singleQuote ∧ c ≠ doubleQuote ∧ c ≠ backslash := by
  refine ⟨?_, ?_, ?_, ?_, ?_⟩ <;> rintro rfl <;> exact absurd h (by decide)

/-- One literal character outside quotes extends the word being read. -/
theorem readWords_literal_cons {c : Char} (hc : isLiteral c = true) (word : Option (List Char))
    (cs : List Char) :
    readWords .unquoted word (c :: cs) = readWords .unquoted (some (word.getD [] ++ [c])) cs := by
  obtain ⟨h1, h2, h3, h4, h5⟩ := isLiteral_ne hc
  simp [readWords, h1, h2, h3, h4, h5, hc]

/-- A run of literal characters extends the word being read. -/
theorem readWords_literal {w : List Char} (hw : ∀ c ∈ w, isLiteral c = true)
    (word : List Char) (rest : List Char) :
    readWords .unquoted (some word) (w ++ rest) = readWords .unquoted (some (word ++ w)) rest := by
  induction w generalizing word with
  | nil => simp
  | cons c w ih =>
    rw [List.cons_append, readWords_literal_cons (hw c (List.mem_cons_self c w)), Option.getD_some,
      ih (fun c hc => hw c (List.mem_cons_of_mem _ hc))]
    simp

/-- A non-empty run of literal characters between words starts a word. -/
theorem readWords_literal_start {c : Char} {w : List Char} (hw : ∀ d ∈ c :: w, isLiteral d = true)
    (rest : List Char) :
    readWords .unquoted none (c :: w ++ rest) = readWords .unquoted (some (c :: w)) rest := by
  rw [List.cons_append, readWords_literal_cons (hw c (List.mem_cons_self c w)),
    readWords_literal (fun d hd => hw d (List.mem_cons_of_mem _ hd))]
  rfl

/-- A blank ends the word being read. -/
theorem readWords_blank (word : Option (List Char)) (rest : List Char) :
    readWords .unquoted word (' ' :: rest) =
      (flush word ++ ·) <$> readWords .unquoted none rest := by
  simp [readWords]

/-- Literal words, each preceded by one blank, are read back one by one after the word being
read. -/
theorem readWords_literalWords (ws : List (List Char))
    (hws : ∀ w ∈ ws, w ≠ [] ∧ ∀ c ∈ w, isLiteral c = true) (word : List Char) :
    readWords .unquoted (some word) (ws.map (' ' :: ·)).flatten =
      some (String.mk word :: ws.map String.mk) := by
  induction ws generalizing word with
  | nil => rfl
  | cons w ws ih =>
    obtain ⟨hne, hlit⟩ := hws w (List.mem_cons_self w ws)
    obtain ⟨c, w, rfl⟩ := List.exists_cons_of_ne_nil hne
    rw [List.map_cons, List.flatten_cons, List.cons_append, readWords_blank,
      readWords_literal_start hlit, ih (fun w hw => hws w (List.mem_cons_of_mem _ hw))]
    rfl

/-- A first literal word and further literal words, each after one blank, are read back. -/
theorem shellWords_literalWords (w : List Char) (ws : List (List Char))
    (hws : ∀ w' ∈ w :: ws, w' ≠ [] ∧ ∀ c ∈ w', isLiteral c = true) :
    shellWords (String.mk (w ++ (ws.map (' ' :: ·)).flatten)) =
      some (String.mk w :: ws.map String.mk) := by
  obtain ⟨hne, hlit⟩ := hws w (List.mem_cons_self w ws)
  obtain ⟨c, w, rfl⟩ := List.exists_cons_of_ne_nil hne
  unfold shellWords
  rw [readWords_literal_start hlit, readWords_literalWords ws
    (fun w' hw' => hws w' (List.mem_cons_of_mem _ hw'))]

end Shell

end TikvOperator
