import CompletionServer.Json.Reader
import CompletionServer.Proofs.Number.Numeral
import Mathlib.Data.List.TakeDrop

/-!
# Texts and numbers in JSON

`TextSpells` and `NumberSpells` say which characters stand for a text or a number, independent of
how they are read: texts with every choice of escapes, numbers in every form. All of them are read
so.
-/

namespace CompletionServer.Json

/-! ## Texts -/

/-- Escapes by one letter. -/
def letterEscapes : List (Char × Char) :=
  [('"', '"'), ('\\', '\\'), ('/', '/'), ('b', '\x08'), ('f', '\x0c'), ('n', '\n'), ('r', '\r'),
   ('t', '\t')]

/-- A hexadecimal digit and its value. -/
def HexDigit (c : Char) (value : Nat) : Prop :=
  Number.digitValue? c = some value ∧ value < 16

/-- Four hexadecimal digits and the number that they spell. -/
inductive Quad : List Char → Nat → Prop
  | mk {a b c d : Char} {w x y z : Nat} (first : HexDigit a w) (second : HexDigit b x)
      (third : HexDigit c y) (fourth : HexDigit d z) :
      Quad [a, b, c, d] (((w * 16 + x) * 16 + y) * 16 + z)

/-- The characters between the quotes of a text, and the code points that they stand for. A first
half of a pair stands for itself unless an escape of a second half follows. -/
inductive TextSpells : List Char → List Nat → Prop
  | done : TextSpells [] []
  | plain {c : Char} {chars : List Char} {codes : List Nat} (quote : c ≠ '"')
      (mark : c ≠ '\\') (printable : 0x20 ≤ c.toNat) (later : TextSpells chars codes) :
      TextSpells (c :: chars) (c.toNat :: codes)
  | letter {letter c : Char} {chars : List Char} {codes : List Nat}
      (escape : (letter, c) ∈ letterEscapes) (later : TextSpells chars codes) :
      TextSpells ('\\' :: letter :: chars) (c.toNat :: codes)
  | unit {digits chars : List Char} {unit : Nat} {codes : List Nat} (quad : Quad digits unit)
      (alone : Text.Points.isHighHalf unit = true → ∀ again low rest, Quad again low →
        chars = '\\' :: 'u' :: (again ++ rest) → Text.Points.isLowHalf low = false)
      (later : TextSpells chars codes) :
      TextSpells ('\\' :: 'u' :: (digits ++ chars)) (unit :: codes)
  | pair {digits again chars : List Char} {high low : Nat} {codes : List Nat}
      (first : Quad digits high) (second : Quad again low)
      (isHigh : Text.Points.isHighHalf high = true) (isLow : Text.Points.isLowHalf low = true)
      (later : TextSpells chars codes) :
      TextSpells ('\\' :: 'u' :: (digits ++ '\\' :: 'u' :: (again ++ chars)))
        (Text.Points.pairCode high low :: codes)

section Texts

variable {digits chars : List Char} {unit : Nat} {codes : List Nat}

/-- A hexadecimal digit is one for the reader of numbers. -/
theorem HexDigit.isDigitOf {c : Char} {value : Nat} (digit : HexDigit c value) :
    Number.isDigitOf 16 c = true := by
  simp [Number.isDigitOf, digit.1, digit.2]

/-- Four digits are read as a unit if something follows them. -/
theorem unit?_quad (quad : Quad digits unit) {rest : List Char} (more : rest ≠ []) :
    unit? (digits ++ rest) = some (unit, rest) := by
  obtain ⟨next, rest, rfl⟩ := List.exists_cons_of_ne_nil more
  cases quad with
  | @mk a b c d w x y z first second third fourth =>
    have hexadecimal : [a, b, c, d].all (Number.isDigitOf 16) = true := by
      simp [first.isDigitOf, second.isDigitOf, third.isDigitOf, fourth.isDigitOf]
    have value : Number.spelled 16 [a, b, c, d] = ((w * 16 + x) * 16 + y) * 16 + z := by
      simp [Number.spelled, first.1, second.1, third.1, fourth.1]
    rw [← value]
    exact if_pos hexadecimal

/-- A letter that escapes a character is found, and is not the one that announces a number. -/
theorem letterEscape?_of_mem {letter c : Char} (escape : (letter, c) ∈ letterEscapes) :
    letter ≠ 'u' ∧ letterEscape? letter = some c := by
  have table : ∀ pair ∈ letterEscapes, pair.1 ≠ 'u' ∧ letterEscape? pair.1 = some pair.2 := by
    decide
  exact table _ escape

/-- A unit is written in four digits. -/
theorem Quad.length_eq (quad : Quad digits unit) : digits.length = 4 := by
  cases quad with
  | mk => rfl

/-- In a text the mark of an escape by number is followed by its digits. -/
theorem TextSpells.exists_quad (spells : TextSpells chars codes) {rest tail : List Char}
    (front : chars ++ '"' :: rest = '\\' :: 'u' :: tail) :
    ∃ again low more, Quad again low ∧ chars = '\\' :: 'u' :: (again ++ more) := by
  cases spells with
  | done => simp at front
  | plain _ mark => exact absurd (List.cons.inj front).1 mark
  | letter escape =>
    have letter := (List.cons.inj (List.cons.inj front).2).1
    exact absurd letter (letterEscape?_of_mem escape).1
  | unit quad => exact ⟨_, _, _, quad, rfl⟩
  | pair first => exact ⟨_, _, _, first, rfl⟩

/-- Two halves of a pair in a row are one code point. -/
theorem numberEscaped_pair {again : List Char} {high low : Nat} (first : Quad digits high)
    (second : Quad again low) (isHigh : Text.Points.isHighHalf high = true)
    (isLow : Text.Points.isLowHalf low = true) {rest : List Char} (more : rest ≠ []) :
    numberEscaped (digits ++ '\\' :: 'u' :: (again ++ rest)) =
      .ok (Text.Points.pairCode high low, rest) := by
  have long : ¬(again ++ rest).length ≤ 4 := by
    have nonempty := List.length_pos_iff.mpr more
    rw [List.length_append, second.length_eq]
    omega
  rw [numberEscaped, unit?_quad first (by simp)]
  simp only [isHigh, if_true, if_neg long, unit?_quad second more, isLow]

/-- A number that no second half follows is a code point of its own. -/
theorem numberEscaped_unit (quad : Quad digits unit) (later : TextSpells chars codes)
    (alone : Text.Points.isHighHalf unit = true → ∀ again low rest, Quad again low →
      chars = '\\' :: 'u' :: (again ++ rest) → Text.Points.isLowHalf low = false)
    (rest : List Char) :
    numberEscaped (digits ++ (chars ++ '"' :: rest)) = .ok (unit, chars ++ '"' :: rest) := by
  rw [numberEscaped, unit?_quad quad (by simp)]
  dsimp only
  split
  · next isHigh =>
    split
    · next tail front =>
      obtain ⟨again, low, more, second, rfl⟩ := later.exists_quad front
      have follows : tail = again ++ (more ++ '"' :: rest) := by
        simpa using (List.cons.inj (List.cons.inj front).2).2.symm
      have long : ¬tail.length ≤ 4 := by
        rw [follows, List.length_append, second.length_eq, List.length_append, List.length_cons]
        omega
      rw [if_neg long, follows, unit?_quad second (by simp)]
      simp only [alone isHigh again low more second rfl, Bool.false_eq_true, if_false]
    · rfl
  · rfl

/-- A plain character of a text is read as itself. -/
theorem readString_plain {c : Char} (quote : c ≠ '"') (mark : c ≠ '\\') (printable : 0x20 ≤ c.toNat)
    (fuel : Nat) (gathered : List Nat) (rest : List Char) :
    readString (fuel + 1) gathered (c :: rest) = readString fuel (c.toNat :: gathered) rest := by
  have control : ¬c.toNat ≤ 0x1f := by omega
  rw [readString.eq_def]
  simp only [if_neg quote, if_neg mark, if_neg control]

/-- A letter behind a backslash is read as what it escapes. -/
theorem readString_letter {letter c : Char} (escape : (letter, c) ∈ letterEscapes) (fuel : Nat)
    (gathered : List Nat) (rest : List Char) :
    readString (fuel + 1) gathered ('\\' :: letter :: rest) =
      readString fuel (c.toNat :: gathered) rest := by
  obtain ⟨other, stands⟩ := letterEscape?_of_mem escape
  rw [readString.eq_def]
  dsimp only
  rw [if_neg (by decide), if_pos rfl]
  split
  · contradiction
  · next same => exact absurd (List.cons.inj same).1 other
  · next same =>
    obtain ⟨rfl, rfl⟩ := List.cons.inj same
    simp only [stands]

/-- A number behind a backslash is read as its code point. -/
theorem readString_number {tail after : List Char} {code : Nat}
    (escaped : numberEscaped tail = .ok (code, after)) (fuel : Nat) (gathered : List Nat) :
    readString (fuel + 1) gathered ('\\' :: 'u' :: tail) =
      readString fuel (code :: gathered) after := by
  rw [readString.eq_def]
  dsimp only
  rw [if_neg (by decide), if_pos rfl]
  simp only [escaped]
  rfl

/-- Characters of a text are read up to its closing quote. -/
theorem readString_of_spells (spells : TextSpells chars codes) {fuel : Nat}
    (enough : chars.length < fuel) (gathered : List Nat) (rest : List Char) :
    readString fuel gathered (chars ++ '"' :: rest) = .ok (⟨gathered.reverse ++ codes⟩, rest) := by
  induction spells generalizing fuel gathered with
  | done =>
    obtain ⟨fuel, rfl⟩ := Nat.exists_eq_add_one_of_ne_zero (Nat.ne_zero_of_lt enough)
    rw [List.append_nil]
    rfl
  | plain quote mark printable _ ih =>
    obtain ⟨fuel, rfl⟩ := Nat.exists_eq_add_one_of_ne_zero (Nat.ne_zero_of_lt enough)
    rw [List.cons_append, readString_plain quote mark printable,
      ih (by simpa using enough), List.reverse_cons, List.append_assoc, List.singleton_append]
  | letter escape _ ih =>
    obtain ⟨fuel, rfl⟩ := Nat.exists_eq_add_one_of_ne_zero (Nat.ne_zero_of_lt enough)
    rw [List.cons_append, List.cons_append, readString_letter escape,
      ih (by simp at enough; omega), List.reverse_cons, List.append_assoc, List.singleton_append]
  | unit quad alone later ih =>
    obtain ⟨fuel, rfl⟩ := Nat.exists_eq_add_one_of_ne_zero (Nat.ne_zero_of_lt enough)
    rw [List.cons_append, List.cons_append, List.append_assoc,
      readString_number (numberEscaped_unit quad later alone rest),
      ih (by simp at enough; omega), List.reverse_cons, List.append_assoc, List.singleton_append]
  | pair first second isHigh isLow _ ih =>
    obtain ⟨fuel, rfl⟩ := Nat.exists_eq_add_one_of_ne_zero (Nat.ne_zero_of_lt enough)
    rw [List.cons_append, List.cons_append, List.append_assoc, List.cons_append, List.cons_append,
      List.append_assoc, readString_number (numberEscaped_pair first second isHigh isLow (by simp)),
      ih (by simp at enough; omega), List.reverse_cons, List.append_assoc, List.singleton_append]

end Texts

/-! ## Numbers -/

/-- A minus sign, or nothing. -/
def signOf (negative : Bool) : List Char :=
  if negative then ['-'] else []

/-- Some digits. -/
structure IsDigits (chars : List Char) : Prop where
  nonempty : chars ≠ []
  each : ∀ c ∈ chars, c.isDigit = true

/-- The digits of a whole number, which begin with a zero only if there is nothing else. -/
structure IsWhole (chars : List Char) : Prop extends IsDigits chars where
  zero : chars.head? = some '0' → chars = ['0']

/-- A fraction with its digits, or nothing. -/
inductive Fraction : List Char → List Char → Prop
  | none : Fraction [] []
  | point {chars : List Char} (digits : IsDigits chars) : Fraction ('.' :: chars) chars

/-- A magnitude with its sign. -/
def signed (negative : Bool) (magnitude : Nat) : Int :=
  if negative then -magnitude else magnitude

/-- The sign of an exponent, or nothing. -/
inductive ExponentSign : List Char → Bool → Prop
  | none : ExponentSign [] false
  | plus : ExponentSign ['+'] false
  | minus : ExponentSign ['-'] true

/-- An exponent with its value, or nothing. -/
inductive Exponent : List Char → Int → Prop
  | none : Exponent [] 0
  | mark {mark : Char} {sign chars : List Char} {negative : Bool}
      (isMark : mark = 'e' ∨ mark = 'E') (isSign : ExponentSign sign negative)
      (digits : IsDigits chars) :
      Exponent (mark :: (sign ++ chars)) (signed negative (Nat.ofDigitChars 10 chars 0))

/-- The characters of a number without its sign, and its value. It is whole, and then of not too
many digits, unless it has a fraction or an exponent. -/
inductive NumberSpells (negative : Bool) : List Char → Json → Prop
  | integer {whole : List Char} (isWhole : IsWhole whole)
      (short : whole.length ≤ Number.digitLimit) :
      NumberSpells negative whole (.integer (signed negative (Nat.ofDigitChars 10 whole 0)))
  | real {whole fraction digits exponent : List Char} {scale : Int} (isWhole : IsWhole whole)
      (isFraction : Fraction fraction digits) (isExponent : Exponent exponent scale)
      (either : fraction ≠ [] ∨ exponent ≠ []) :
      NumberSpells negative (whole ++ (fraction ++ exponent))
        (.float (Number.DecimalLiteral.toFloat ⟨whole ++ digits, scale - digits.length⟩ negative))

/-- What may follow a value: the end, a blank, a comma or a closing bracket. -/
def Ends (rest : List Char) : Prop :=
  ∀ c ∈ rest.head?, isSpace c = true ∨ c = ',' ∨ c = ']' ∨ c = '\x7d'

section Numbers

variable {whole digits rest : List Char} {negative : Bool}

/-- Digits are taken up to what is none. -/
theorem spanDigits_append (digits : ∀ c ∈ whole, c.isDigit = true)
    (stops : ∀ c ∈ rest.head?, c.isDigit = false) :
    Number.spanDigits (whole ++ rest) = (whole, rest) := by
  have ascii : Number.isDigitOf 10 = Char.isDigit := funext Number.isDigitOf_ten
  rw [Number.spanDigits, List.span_eq_takeWhile_dropWhile, ascii,
    List.takeWhile_append_of_pos digits, List.dropWhile_append_of_pos digits]
  cases rest with
  | nil => simp
  | cons c rest =>
    have stop : c.isDigit = false := stops c rfl
    simp [stop]

/-- A whole part is read up to what is no digit. -/
theorem wholePart?_append (isWhole : IsWhole whole)
    (stops : ∀ c ∈ rest.head?, c.isDigit = false) :
    wholePart? (whole ++ rest) = some (whole, rest) := by
  obtain ⟨first, others, rfl⟩ := List.exists_cons_of_ne_nil isWhole.nonempty
  by_cases zero : first = '0'
  · have only : first :: others = ['0'] := isWhole.zero (congrArg some zero)
    rw [only]
    rfl
  · unfold wholePart?
    split
    · next same => exact absurd (List.cons.inj same).1 zero
    · rw [spanDigits_append isWhole.each stops]
      rfl

/-- A fraction is read up to what is neither a digit nor a point. -/
theorem fractionPart_append {fraction : List Char} (isFraction : Fraction fraction digits)
    (stops : ∀ c ∈ rest.head?, c.isDigit = false ∧ c ≠ '.') :
    fractionPart (fraction ++ rest) = (digits, rest) := by
  cases isFraction with
  | none =>
    unfold fractionPart
    split
    · next same => exact absurd rfl (stops '.' (by rw [← List.nil_append rest, same]; rfl)).2
    · rfl
  | point isDigits =>
    have nonempty : digits.isEmpty = false := by simpa using isDigits.nonempty
    rw [List.cons_append, fractionPart,
      spanDigits_append isDigits.each fun c own => (stops c own).1]
    simp only [nonempty, Bool.false_eq_true, if_false]

/-- The sign of an exponent is split from its digits. -/
theorem splitSign_append {sign chars : List Char} (isSign : ExponentSign sign negative)
    (digits : IsDigits chars) :
    Number.splitSign (sign ++ chars ++ rest) = (negative, chars ++ rest) := by
  cases isSign with
  | plus => rfl
  | minus => rfl
  | none =>
    obtain ⟨first, others, rfl⟩ := List.exists_cons_of_ne_nil digits.nonempty
    have digit : first.isDigit = true := digits.each first List.mem_cons_self
    unfold Number.splitSign
    split
    · next same =>
      obtain ⟨rfl, -⟩ := List.cons.inj same
      contradiction
    · next same =>
      obtain ⟨rfl, -⟩ := List.cons.inj same
      contradiction
    · rfl

/-- An exponent is read up to what is no part of it, and none is read only if there is none. -/
theorem exponentPart_append {exponent : List Char} {scale : Int}
    (isExponent : Exponent exponent scale)
    (stops : ∀ c ∈ rest.head?, c.isDigit = false ∧ c ≠ 'e' ∧ c ≠ 'E') :
    ∃ value?, exponentPart (exponent ++ rest) = (value?, rest) ∧ value?.getD 0 = scale ∧
      (value?.isNone = true ↔ exponent = []) := by
  cases isExponent with
  | none =>
    refine ⟨none, ?_, rfl, by simp⟩
    cases rest with
    | nil => rfl
    | cons c rest =>
      have other := (stops c rfl).2
      rw [List.nil_append, exponentPart.eq_def]
      exact if_neg (by simpa using other)
  | @mark mark sign chars negative isMark isSign digits =>
    have nonempty : chars.isEmpty = false := by simpa using digits.nonempty
    have marked : (mark = 'e' || mark = 'E') = true := by simpa using isMark
    refine ⟨some (signed negative (Nat.ofDigitChars 10 chars 0)), ?_, rfl, by simp⟩
    rw [List.cons_append, exponentPart.eq_def]
    dsimp only
    rw [if_pos marked, splitSign_append isSign digits]
    dsimp only
    rw [spanDigits_append digits.each fun c own => (stops c own).1]
    simp only [nonempty, Bool.false_eq_true, if_false,
      Number.spelled_eq_ofDigitChars digits.each]
    rfl

/-- There are four blanks. -/
theorem isSpace_iff {c : Char} :
    isSpace c = true ↔ c = ' ' ∨ c = '\t' ∨ c = '\n' ∨ c = '\r' := by
  simp [isSpace, or_assoc]

/-- What ends a value goes on with no number. -/
theorem Ends.stops (ends : Ends rest) :
    ∀ c ∈ rest.head?, c.isDigit = false ∧ c ≠ '.' ∧ c ≠ 'e' ∧ c ≠ 'E' := by
  intro c own
  rcases ends c own with blank | rfl | rfl | rfl
  · rcases isSpace_iff.mp blank with rfl | rfl | rfl | rfl <;> decide
  · decide
  · decide
  · decide

/-- No digit and no point follows where an exponent or the end begins. -/
theorem Exponent.stops {exponent : List Char} {scale : Int} (isExponent : Exponent exponent scale)
    (ends : Ends rest) : ∀ c ∈ (exponent ++ rest).head?, c.isDigit = false ∧ c ≠ '.' := by
  cases isExponent with
  | none => exact fun c own => ⟨(ends.stops c own).1, (ends.stops c own).2.1⟩
  | mark isMark _ _ =>
    intro c own
    rw [← Option.some.inj own]
    rcases isMark with rfl | rfl <;> decide

/-- No digit follows where a fraction or the end begins. -/
theorem Fraction.stops {fraction : List Char} (isFraction : Fraction fraction digits)
    (ends : ∀ c ∈ rest.head?, c.isDigit = false) :
    ∀ c ∈ (fraction ++ rest).head?, c.isDigit = false := by
  cases isFraction with
  | none => exact ends
  | point _ =>
    intro c own
    rw [← Option.some.inj own]
    decide

/-- A fraction that is written has digits. -/
theorem Fraction.isEmpty_eq_false {fraction : List Char} (isFraction : Fraction fraction digits)
    (nonempty : fraction ≠ []) : digits.isEmpty = false := by
  cases isFraction with
  | none => contradiction
  | point isDigits => simpa using isDigits.nonempty

/-- A number is read up to what ends it. -/
theorem readNumber_of_spells {chars : List Char} {value : Json}
    (spells : NumberSpells negative chars value) (ends : Ends rest) :
    readNumber negative (chars ++ rest) = .ok (value, rest) := by
  have stops := ends.stops
  cases spells with
  | integer isWhole short =>
    have fraction : fractionPart ([] ++ rest) = ([], rest) :=
      fractionPart_append .none fun c own => ⟨(stops c own).1, (stops c own).2.1⟩
    obtain ⟨value?, exponent, -, none⟩ :=
      exponentPart_append .none fun c own => ⟨(stops c own).1, (stops c own).2.2⟩
    rw [List.nil_append] at fraction exponent
    rw [readNumber, wholePart?_append isWhole fun c own => (stops c own).1]
    dsimp only
    rw [fraction]
    dsimp only
    rw [exponent]
    simp only [none.mpr rfl, List.isEmpty_nil, Bool.and_self, if_true,
      if_neg (Nat.not_lt.mpr short), Number.spelled_eq_ofDigitChars isWhole.each]
    rfl
  | @real whole fraction digits exponent scale isWhole isFraction isExponent either =>
    have afterFraction := isExponent.stops ends
    have afterWhole := isFraction.stops fun c own => (afterFraction c own).1
    obtain ⟨value?, found, scaled, none⟩ :=
      exponentPart_append isExponent fun c own => ⟨(stops c own).1, (stops c own).2.2⟩
    have notWhole : (digits.isEmpty && value?.isNone) = false := by
      rw [Bool.and_eq_false_iff]
      rcases either with some | some
      · exact .inl (isFraction.isEmpty_eq_false some)
      · exact .inr (by rwa [Bool.eq_false_iff, Ne, none])
    rw [List.append_assoc, List.append_assoc, readNumber, wholePart?_append isWhole afterWhole]
    dsimp only
    rw [fractionPart_append isFraction afterFraction]
    dsimp only
    rw [found]
    simp only [notWhole, Bool.false_eq_true, if_false, scaled]

end Numbers

end CompletionServer.Json
