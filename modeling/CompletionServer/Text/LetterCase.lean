import CompletionServer.Text.LetterCase.Tables

/-!
# Letter case

Full case conversion: a letter may become several, and the capital sigma becomes the final one at
the end of a word. A text is all lower case when some letter has the lower-case property and none
is a capital or a title letter.
-/

namespace CompletionServer.Text

namespace LetterCase

/-- A lower-case letter. -/
def isLower (c : Char) : Bool := inRuns lowerRuns c

/-- An upper-case letter. -/
def isUpper (c : Char) : Bool := inRuns upperRuns c

/-- A title-case letter. -/
def isTitle (c : Char) : Bool := inRuns titleRuns c

/-- A letter moved by the entry whose run holds it. -/
def shifted (shifts : List Shift) (c : Char) : Char :=
  match shifts.find? fun shift => shift.run.contains c.toNat with
  | some shift => Char.ofNat (c.toNat + shift.distance).toNat
  | none => c

/-- Whether the characters before a sigma, nearest first, end in a letter with case. -/
def followsLetter (before : List Char) : Bool :=
  match before.dropWhile (inIntervals ignorableIntervals) with
  | c :: _ => inIntervals casedIntervals c
  | [] => false

/-- Lower case of one character between its neighbours, the nearest preceding one first. -/
def lowerAt (before : List Char) (c : Char) (after : List Char) : List Char :=
  if c.toNat < 0x80 then [c.toLower]
  else if c = '\u0130' then ['i', '\u0307']
  else if c = 'Σ' then
    if followsLetter before && !followsLetter after then ['ς'] else ['σ']
  else [shifted lowerShifts c]

/-- Lower case of the characters that follow `before`. -/
def lowerFrom : (before : List Char) → List Char → List Char
  | _, [] => []
  | before, c :: rest => lowerAt before c rest ++ lowerFrom (c :: before) rest

/-- Upper case of one character. -/
def upperChar (c : Char) : List Char :=
  if c.toNat < 0x80 then [c.toUpper]
  else
    match upperExpansions.find? (·.1 == c.toNat) with
    | some (_, codes) => codes.map Char.ofNat
    | none => [shifted upperShifts c]

end LetterCase

/-- A text in lower case. -/
def lowerCase (text : String) : String :=
  String.ofList (LetterCase.lowerFrom [] text.toList)

/-- A text in upper case. -/
def upperCase (text : String) : String :=
  String.ofList (text.toList.flatMap LetterCase.upperChar)

/-- Some letter is lower case and none is a capital or a title letter. -/
def isLowerText (text : String) : Bool :=
  text.toList.any LetterCase.isLower &&
    text.toList.all fun c => !LetterCase.isUpper c && !LetterCase.isTitle c

end CompletionServer.Text
