import CompletionServer.Text.CodePoint

/-!
# Blank characters

Blanks are the characters that trimming removes: the ASCII blanks, the four information
separators, and the space characters of the standard.
-/

namespace CompletionServer.Text

/-- The blank code points, as ascending closed intervals. -/
def blankIntervals : List (Nat × Nat) :=
  [(0x09, 0x0d), (0x1c, 0x20), (0x85, 0x85), (0xa0, 0xa0), (0x1680, 0x1680), (0x2000, 0x200a),
   (0x2028, 0x2029), (0x202f, 0x202f), (0x205f, 0x205f), (0x3000, 0x3000)]

/-- Whether trimming removes the character. -/
def isBlank (c : Char) : Bool :=
  inIntervals blankIntervals c

/-- Blanks removed from both ends of a character list. -/
def trimmed (chars : List Char) : List Char :=
  ((chars.dropWhile isBlank).reverse.dropWhile isBlank).reverse

/-- Blanks removed from both ends of a text. -/
def trim (text : String) : String :=
  String.ofList (trimmed text.toList)

/-- A text with no character that is not blank. -/
def isBlankText (text : String) : Bool :=
  text.toList.all isBlank

/-- What is trimmed begins with no blank. -/
theorem head_trimmed_not_blank {chars : List Char} {c : Char}
    (h : (trimmed chars).head? = some c) : isBlank c = false := by
  have suffix : trimmed chars <+: chars.dropWhile isBlank := by
    have := List.dropWhile_suffix isBlank (l := (chars.dropWhile isBlank).reverse)
    simpa [trimmed] using List.reverse_prefix.2 this
  obtain ⟨rest, split⟩ := suffix
  have first : (chars.dropWhile isBlank).head? = some c := by
    rw [← split]
    cases found : trimmed chars with
    | nil => simp [found] at h
    | cons a tail => simpa [found] using h
  have := List.head?_dropWhile_not isBlank chars
  simp only [first] at this
  simpa using this

/-- What is trimmed ends with no blank. -/
theorem last_trimmed_not_blank {chars : List Char} {c : Char}
    (h : (trimmed chars).getLast? = some c) : isBlank c = false := by
  rw [trimmed, List.getLast?_reverse] at h
  have := List.head?_dropWhile_not isBlank (chars.dropWhile isBlank).reverse
  simp only [h] at this
  simpa using this

end CompletionServer.Text
