import CompletionServer.Number.Literal
import Mathlib.Data.List.Forall2
import Mathlib.Data.List.Induction
import Mathlib.Data.List.TakeWhile
import Mathlib.Data.Nat.Digits.Defs

/-!
# Numerals

The grammar of whole numbers as texts, independent of how they are read: `Numeral` says which
characters stand for which digits, `Denotes` adds the sign and the limit on the number of digits,
and `Text.Padded` says what stands between blanks. Reading a whole number accepts exactly the texts
of this grammar.
-/

namespace CompletionServer

/-! ## Texts between blanks -/

namespace Text

/-- A text with blanks around it, or none. -/
def Padded (core text : String) : Prop :=
  ∃ left right, isBlankText left = true ∧ isBlankText right = true ∧ text = left ++ core ++ right

/-- What is left of a list without its front if the list does not begin with one. -/
theorem dropWhile_of_head? {α : Type} {test : α → Bool} {items : List α}
    (first : ∀ item ∈ items.head?, test item = false) : items.dropWhile test = items := by
  cases items with
  | nil => rfl
  | cons item rest => exact List.dropWhile_cons_of_neg (by simp [first item rfl])

/-- Blanks around a list are trimmed if it neither begins nor ends with one. -/
theorem trimmed_append {left core right : List Char} (before : ∀ c ∈ left, isBlank c = true)
    (after : ∀ c ∈ right, isBlank c = true) (front : ∀ c ∈ core.head?, isBlank c = false)
    (back : ∀ c ∈ core.getLast?, isBlank c = false) : trimmed (left ++ core ++ right) = core := by
  have cut : (left ++ core ++ right).dropWhile isBlank = (core ++ right).dropWhile isBlank := by
    rw [List.append_assoc, List.dropWhile_append_of_pos before]
  rw [trimmed, cut]
  cases core with
  | nil =>
    have none : right.dropWhile isBlank = [] := List.dropWhile_eq_nil_iff.mpr after
    simp [none]
  | cons c rest =>
    have kept : (c :: rest ++ right).dropWhile isBlank = c :: rest ++ right :=
      dropWhile_of_head? front
    have reversed : (c :: rest ++ right).reverse.dropWhile isBlank = (c :: rest).reverse := by
      rw [List.reverse_append, List.dropWhile_append_of_pos (by simpa using after)]
      apply dropWhile_of_head?
      rwa [List.head?_reverse]
    rw [kept, reversed, List.reverse_reverse]

/-- Every text is what trimming leaves of it, between blanks. -/
theorem padded_trim (text : String) : Padded (trim text) text := by
  let middle := text.toList.dropWhile isBlank
  have front : text.toList = text.toList.takeWhile isBlank ++ middle :=
    List.takeWhile_append_dropWhile.symm
  have back : middle = trimmed text.toList ++ (middle.reverse.takeWhile isBlank).reverse := by
    rw [trimmed, ← List.reverse_append, List.takeWhile_append_dropWhile, List.reverse_reverse]
  refine ⟨String.ofList (text.toList.takeWhile isBlank),
    String.ofList (middle.reverse.takeWhile isBlank).reverse, ?_, ?_, ?_⟩
  · rw [isBlankText, String.toList_ofList, List.all_eq_true]
    exact fun c member => List.mem_takeWhile_imp member
  · rw [isBlankText, String.toList_ofList, List.all_reverse, List.all_eq_true]
    exact fun c member => List.mem_takeWhile_imp member
  · apply String.toList_injective
    rw [trim, ← String.ofList_append, ← String.ofList_append, String.toList_ofList,
      List.append_assoc, ← back, ← front]

/-- Trimming gives back what stands between blanks and has none at its ends. -/
theorem Padded.trim_eq {core text : String} (padded : Padded core text)
    (front : ∀ c ∈ core.toList.head?, isBlank c = false)
    (back : ∀ c ∈ core.toList.getLast?, isBlank c = false) : trim text = core := by
  obtain ⟨left, right, before, after, rfl⟩ := padded
  rw [isBlankText, List.all_eq_true] at before after
  rw [trim, String.toList_append, String.toList_append, trimmed_append before after front back,
    String.ofList_toList]

end Text

/-! ## The grammar -/

namespace Number

/-- Characters that stand for decimal digits, the most significant first: digits of any script, with
at most one underscore between two of them. -/
inductive Numeral : List Char → List Nat → Prop
  | last {c : Char} {digit : Nat} (stands : Text.decimalDigit? c = some digit) :
      Numeral [c] [digit]
  | next {c : Char} {digit : Nat} {chars : List Char} {digits : List Nat}
      (stands : Text.decimalDigit? c = some digit) (more : Numeral chars digits) :
      Numeral (c :: chars) (digit :: digits)
  | apart {c : Char} {digit : Nat} {chars : List Char} {digits : List Nat}
      (stands : Text.decimalDigit? c = some digit) (more : Numeral chars digits) :
      Numeral (c :: '_' :: chars) (digit :: digits)

/-- The number of decimal digits, the most significant first. -/
def valueOf (digits : List Nat) : Nat :=
  Nat.ofDigits 10 digits.reverse

/-- Characters that denote a whole number: a numeral of no more digits than the limit, with a sign
or without. -/
inductive Denotes : List Char → Int → Prop
  | plain {chars : List Char} {digits : List Nat} (numeral : Numeral chars digits)
      (fits : digits.length ≤ digitLimit) : Denotes chars (valueOf digits)
  | plus {chars : List Char} {digits : List Nat} (numeral : Numeral chars digits)
      (fits : digits.length ≤ digitLimit) : Denotes ('+' :: chars) (valueOf digits)
  | minus {chars : List Char} {digits : List Nat} (numeral : Numeral chars digits)
      (fits : digits.length ≤ digitLimit) : Denotes ('-' :: chars) (-(valueOf digits : Int))

/-! ## Digits -/

section Digits

variable {c : Char} {digit : Nat}

/-- The character of a digit has the digit as its value. -/
theorem digitValue?_ofNat (small : digit < 10) :
    digitValue? (Char.ofNat (0x30 + digit)) = some digit := by
  have all : ∀ digit < 10, digitValue? (Char.ofNat (0x30 + digit)) = some digit := by decide
  exact all digit small

/-- An ASCII digit is one of the decimal digits. -/
theorem decimalDigit?_of_isDigitOf (own : isDigitOf 10 c = true) :
    Text.decimalDigit? c = some (c.toNat - 0x30) := by
  have range : 0x30 ≤ c.toNat ∧ c.toNat ≤ 0x39 := by
    rw [isDigitOf, digitValue?] at own
    grind
  have first : Text.decimalIntervals.find?
      (fun interval => interval.1 ≤ c.toNat && c.toNat ≤ interval.2) = some (0x30, 0x39) := by
    rw [Text.decimalIntervals, List.find?_cons_of_pos (by simpa using range)]
  rw [Text.decimalDigit?, first, Option.map_some]
  congr 1
  omega

/-- A digit of any script becomes the plain digit of the same value. -/
theorem plainDigit_of_some (stands : Text.decimalDigit? c = some digit) :
    plainDigit c = Char.ofNat (0x30 + digit) := by
  rw [plainDigit, stands]

/-- A character that is no digit stays as it is. -/
theorem plainDigit_of_none (none : Text.decimalDigit? c = none) : plainDigit c = c := by
  rw [plainDigit, none]

/-- A plain digit has the value of the digit that it is written for. -/
theorem digitValue?_plainDigit (stands : Text.decimalDigit? c = some digit) :
    digitValue? (plainDigit c) = some digit := by
  rw [plainDigit_of_some stands, digitValue?_ofNat (Text.decimalDigit?_lt stands)]

/-- A character becomes a plain digit exactly if it is a digit of some script. -/
theorem isDigitOf_plainDigit (c : Char) :
    isDigitOf 10 (plainDigit c) = (Text.decimalDigit? c).isSome := by
  cases stands : Text.decimalDigit? c with
  | some digit =>
    have small := Text.decimalDigit?_lt stands
    simp [isDigitOf, digitValue?_plainDigit stands, small]
  | none =>
    rw [plainDigit_of_none stands, Option.isSome_none]
    apply Bool.eq_false_iff.mpr
    intro own
    rw [decimalDigit?_of_isDigitOf own] at stands
    contradiction

/-- A mark that is no digit is written for itself only. -/
theorem plainDigit_eq_iff {mark : Char} (other : Text.decimalDigit? mark = none) :
    plainDigit c = mark ↔ c = mark := by
  constructor
  · intro same
    cases stands : Text.decimalDigit? c with
    | none => rw [← same, plainDigit_of_none stands]
    | some digit =>
      have own : isDigitOf 10 mark = true := by
        rw [← same, isDigitOf_plainDigit, stands, Option.isSome_some]
      rw [decimalDigit?_of_isDigitOf own] at other
      contradiction
  · rintro rfl
    exact plainDigit_of_none other

/-- An underscore is no digit. -/
theorem decimalDigit?_underscore : Text.decimalDigit? '_' = none := by decide

/-- An underscore stays as it is. -/
theorem plainDigit_underscore : plainDigit '_' = '_' :=
  plainDigit_of_none decimalDigit?_underscore

/-- No digit becomes an underscore. -/
theorem plainDigit_ne_underscore (stands : Text.decimalDigit? c = some digit) :
    plainDigit c ≠ '_' := by
  rw [Ne, plainDigit_eq_iff decimalDigit?_underscore]
  rintro rfl
  rw [decimalDigit?_underscore] at stands
  contradiction

end Digits

/-! ## Numerals are read -/

section Reading

variable {chars : List Char} {digits : List Nat}

/-- Digits in the same places spell the number of their values. -/
theorem foldl_spelled (base : Nat) {chars : List Char} {digits : List Nat}
    (each : List.Forall₂ (fun c digit => digitValue? c = some digit) chars digits) (value : Nat) :
    chars.foldl (fun value c => ((digitValue? c).map (value * base + ·)).getD value) value =
      value * base ^ digits.length + Nat.ofDigits base digits.reverse := by
  induction each generalizing value with
  | nil => simp
  | @cons c digit chars digits here _ ih =>
    rw [List.foldl_cons, here, Option.map_some, Option.getD_some, ih, Nat.ofDigits_reverse_cons,
      List.length_cons, Nat.pow_succ]
    ring

/-- Characters that are digits spell the number of these digits. -/
theorem spelled_eq (base : Nat)
    (each : List.Forall₂ (fun c digit => digitValue? c = some digit) chars digits) :
    spelled base chars = Nat.ofDigits base digits.reverse := by
  rw [spelled, foldl_spelled base each, Nat.zero_mul, Nat.zero_add]

/-- Underscores change nothing about the number that is spelled. -/
theorem spelled_filter (base : Nat) (chars : List Char) :
    spelled base (chars.filter (· ≠ '_')) = spelled base chars := by
  have skipped : digitValue? '_' = none := by decide
  rw [spelled, spelled, List.foldl_filter]
  congr 1
  funext value c
  by_cases mark : c = '_'
  · simp [mark, skipped]
  · simp [mark]

/-- A numeral has a character. -/
theorem Numeral.ne_nil (numeral : Numeral chars digits) : chars ≠ [] := by
  cases numeral <;> simp

/-- A numeral consists of digits and underscores. -/
theorem Numeral.mem (numeral : Numeral chars digits) :
    ∀ c ∈ chars, (Text.decimalDigit? c).isSome = true ∨ c = '_' := by
  induction numeral with
  | last stands => simp [stands]
  | next stands _ ih => simpa [stands] using ih
  | apart stands _ ih => simpa [stands] using ih

/-- Without its underscores a numeral has one digit in each place. -/
theorem Numeral.places (numeral : Numeral chars digits) :
    List.Forall₂ (fun c digit => digitValue? c = some digit)
      ((chars.map plainDigit).filter (· ≠ '_')) digits := by
  induction numeral with
  | last stands => simpa [plainDigit_ne_underscore stands] using digitValue?_plainDigit stands
  | next stands _ ih =>
    simpa [plainDigit_ne_underscore stands, digitValue?_plainDigit stands] using ih
  | apart stands _ ih =>
    simpa [plainDigit_ne_underscore stands, plainDigit_underscore, digitValue?_plainDigit stands]
      using ih

/-- A character other than an underscore only tells whether a digit stands before the others. -/
theorem underscoresBetweenDigits_cons {isDigit : Char → Bool} {c : Char} (other : c ≠ '_')
    (afterDigit : Bool) (rest : List Char) :
    underscoresBetweenDigits isDigit afterDigit (c :: rest) =
      underscoresBetweenDigits isDigit (isDigit c) rest := by
  rw [underscoresBetweenDigits]
  exact other

/-- In a numeral every underscore stands between digits. -/
theorem Numeral.underscores (numeral : Numeral chars digits) (afterDigit : Bool) :
    underscoresBetweenDigits (isDigitOf 10) afterDigit (chars.map plainDigit) = true := by
  have digitLike {c : Char} {digit : Nat} (stands : Text.decimalDigit? c = some digit) :
      isDigitOf 10 (plainDigit c) = true := by
    rw [isDigitOf_plainDigit, stands, Option.isSome_some]
  induction numeral generalizing afterDigit with
  | last stands =>
    rw [List.map_cons, underscoresBetweenDigits_cons (plainDigit_ne_underscore stands)]
    rfl
  | next stands _ ih =>
    rw [List.map_cons, underscoresBetweenDigits_cons (plainDigit_ne_underscore stands)]
    exact ih _
  | @apart c digit chars digits stands more ih =>
    have first : (chars.map plainDigit).head?.any (isDigitOf 10) = true := by
      cases more with
      | last stands => simp [digitLike stands]
      | next stands _ => simp [digitLike stands]
      | apart stands _ => simp [digitLike stands]
    rw [List.map_cons, underscoresBetweenDigits_cons (plainDigit_ne_underscore stands),
      List.map_cons, plainDigit_underscore, underscoresBetweenDigits, digitLike stands, first]
    exact ih false

/-- An underscore is never first, so that the first character is a digit. -/
theorem exists_digit_first {c : Char} {rest : List Char}
    (between : underscoresBetweenDigits (isDigitOf 10) false ((c :: rest).map plainDigit) = true)
    (own : (Text.decimalDigit? c).isSome = true ∨ c = '_') :
    ∃ digit, Text.decimalDigit? c = some digit ∧
      underscoresBetweenDigits (isDigitOf 10) true (rest.map plainDigit) = true := by
  rcases own with digitLike | rfl
  · obtain ⟨digit, stands⟩ := Option.isSome_iff_exists.mp digitLike
    rw [List.map_cons, underscoresBetweenDigits_cons (plainDigit_ne_underscore stands),
      isDigitOf_plainDigit, digitLike] at between
    exact ⟨digit, stands, between⟩
  · rw [List.map_cons, plainDigit_underscore, underscoresBetweenDigits] at between
    contradiction

/-- Digits and underscores make a numeral if the underscores stand between digits. -/
theorem exists_numeral (each : ∀ c ∈ chars, (Text.decimalDigit? c).isSome = true ∨ c = '_')
    (between : underscoresBetweenDigits (isDigitOf 10) false (chars.map plainDigit) = true)
    (nonempty : chars ≠ []) : ∃ digits, Numeral chars digits := by
  induction chars using List.twoStepInduction with
  | nil => exact absurd rfl nonempty
  | singleton c =>
    obtain ⟨digit, stands, -⟩ := exists_digit_first between (each c (by simp))
    exact ⟨[digit], .last stands⟩
  | cons_cons c second rest ih ihSecond =>
    obtain ⟨digit, stands, later⟩ := exists_digit_first between (each c (by simp))
    by_cases mark : second = '_'
    · subst mark
      rw [List.map_cons, plainDigit_underscore, underscoresBetweenDigits, Bool.true_and,
        Bool.and_eq_true] at later
      obtain ⟨follows, later⟩ := later
      have some : rest ≠ [] := by
        rintro rfl
        contradiction
      obtain ⟨digits, numeral⟩ := ih (fun c member => each c (by simp [member])) later some
      exact ⟨digit :: digits, .apart stands numeral⟩
    · have other : plainDigit second ≠ '_' := by
        rwa [Ne, plainDigit_eq_iff decimalDigit?_underscore]
      rw [List.map_cons, underscoresBetweenDigits_cons other,
        ← underscoresBetweenDigits_cons other false, ← List.map_cons] at later
      obtain ⟨digits, numeral⟩ :=
        ihSecond second (fun c member => each c (List.mem_cons_of_mem _ member)) later (by simp)
      exact ⟨digit :: digits, .next stands numeral⟩

/-- Characters are a numeral exactly if all of them are digits or underscores, and the underscores
stand between digits. -/
theorem isNumeral_iff : (∃ digits, Numeral chars digits) ↔
    (chars ≠ [] ∧ (∀ c ∈ chars, (Text.decimalDigit? c).isSome = true ∨ c = '_') ∧
      underscoresBetweenDigits (isDigitOf 10) false (chars.map plainDigit) = true) := by
  constructor
  · rintro ⟨digits, numeral⟩
    exact ⟨numeral.ne_nil, numeral.mem, numeral.underscores false⟩
  · rintro ⟨nonempty, each, between⟩
    exact exists_numeral each between nonempty

/-- Without its underscores a numeral is as long as its digits. -/
theorem Numeral.length_eq (numeral : Numeral chars digits) :
    ((chars.map plainDigit).filter (· ≠ '_')).length = digits.length :=
  numeral.places.length_eq

/-- A numeral spells the value of its digits. -/
theorem Numeral.spelled_eq_valueOf (numeral : Numeral chars digits) :
    spelled 10 (chars.map plainDigit) = valueOf digits := by
  rw [← spelled_filter, spelled_eq 10 numeral.places, valueOf]

/-- A numeral has a digit. -/
theorem Numeral.digits_ne_nil (numeral : Numeral chars digits) : digits ≠ [] := by
  cases numeral <;> simp

/-- The characters that a numeral may hold are those that are gathered for it. -/
theorem takeWhile_eq_self_iff :
    (chars.map plainDigit).takeWhile (fun c => isDigitOf 10 c || c = '_') = chars.map plainDigit ↔
      ∀ c ∈ chars, (Text.decimalDigit? c).isSome = true ∨ c = '_' := by
  rw [List.takeWhile_eq_self_iff]
  simp [isDigitOf_plainDigit, plainDigit_eq_iff decimalDigit?_underscore]

/-- There is no mark for the base ten. -/
theorem dropBaseMark_ten (chars : List Char) : dropBaseMark 10 chars = chars := by
  unfold dropBaseMark
  split <;> simp

/-- What follows the sign is a whole number exactly if it is a numeral of no more digits than the
limit. -/
theorem integer_eq_ok_iff_of_splitSign {text : String} {negative : Bool} {value : Int}
    (parts : splitSign (plainLiteral text) = (negative, chars.map plainDigit)) :
    integer text = .ok value ↔ ∃ digits, Numeral chars digits ∧ digits.length ≤ digitLimit ∧
      value = if negative then -(valueOf digits : Int) else valueOf digits := by
  have limited : isLimitedBase 10 = true := by decide
  simp only [integer, integerIn, parts, dropBaseMark_ten, limited, Bool.true_and]
  constructor
  · intro done
    split at done
    · cases done
    next between =>
    split at done
    · cases done
    next fits =>
    split at done
    · cases done
    next whole =>
    simp only [Bool.or_eq_true, decide_eq_true_eq, not_or, Nat.not_lt] at whole
    have all := (List.takeWhile_prefix
      (fun c => isDigitOf 10 c || c = '_') (l := chars.map plainDigit)).eq_of_length_le whole.2
    rw [all] at between fits whole done
    have nonempty : chars ≠ [] := by
      rintro rfl
      exact whole.1 rfl
    obtain ⟨digits, numeral⟩ := isNumeral_iff.mpr
      ⟨nonempty, takeWhile_eq_self_iff.mp all, by simpa using between⟩
    rw [numeral.length_eq] at fits
    rw [numeral.spelled_eq_valueOf] at done
    exact ⟨digits, numeral, by simpa using fits, (Except.ok.inj done).symm⟩
  · rintro ⟨digits, numeral, fits, rfl⟩
    have count : digits.length ≠ 0 := by simpa using numeral.digits_ne_nil
    rw [takeWhile_eq_self_iff.mpr numeral.mem, numeral.underscores, numeral.length_eq,
      numeral.spelled_eq_valueOf, if_neg (by simp), if_neg (by simpa using fits),
      if_neg (by simpa using count)]

end Reading

/-! ## Signs -/

section Signs

variable {chars : List Char}

/-- Plain digits leave the sign as it is. -/
theorem splitSign_map (chars : List Char) :
    splitSign (chars.map plainDigit) =
      ((splitSign chars).1, (splitSign chars).2.map plainDigit) := by
  have minus : Text.decimalDigit? '-' = none := by decide
  have plus : Text.decimalDigit? '+' = none := by decide
  cases chars with
  | nil => rfl
  | cons c rest =>
    by_cases isMinus : c = '-'
    · subst isMinus
      rw [List.map_cons, plainDigit_of_none minus]
      rfl
    by_cases isPlus : c = '+'
    · subst isPlus
      rw [List.map_cons, plainDigit_of_none plus]
      rfl
    have kept : splitSign (c :: rest) = (false, c :: rest) := by
      unfold splitSign
      split <;> simp_all
    have keptPlain : splitSign ((c :: rest).map plainDigit) =
        (false, (c :: rest).map plainDigit) := by
      rw [← plainDigit_eq_iff minus] at isMinus
      rw [← plainDigit_eq_iff plus] at isPlus
      unfold splitSign
      split <;> simp_all
    rw [kept, keptPlain]

/-- A numeral begins with a digit, so that it has no sign of its own. -/
theorem Numeral.splitSign_eq {digits : List Nat} (numeral : Numeral chars digits) :
    splitSign chars = (false, chars) := by
  have minus : Text.decimalDigit? '-' = none := by decide
  have plus : Text.decimalDigit? '+' = none := by decide
  unfold splitSign
  split
  · cases numeral <;> simp_all
  · cases numeral <;> simp_all
  · rfl

/-- A text denotes a number if behind its sign a numeral of the right length stands for it. -/
theorem denotes_iff {value : Int} :
    Denotes chars value ↔ ∃ digits, Numeral (splitSign chars).2 digits ∧
      digits.length ≤ digitLimit ∧
      value = if (splitSign chars).1 then -(valueOf digits : Int) else valueOf digits := by
  constructor
  · rintro (⟨numeral, fits⟩ | ⟨numeral, fits⟩ | ⟨numeral, fits⟩)
    · rw [numeral.splitSign_eq]
      exact ⟨_, numeral, fits, rfl⟩
    · exact ⟨_, numeral, fits, rfl⟩
    · exact ⟨_, numeral, fits, rfl⟩
  · rintro ⟨digits, numeral, fits, rfl⟩
    unfold splitSign at numeral ⊢
    split at numeral
    · exact .minus numeral fits
    · exact .plus numeral fits
    · exact .plain numeral fits

/-- No digit is a blank. -/
theorem isBlank_of_decimalDigit? {c : Char} (stands : (Text.decimalDigit? c).isSome = true) :
    Text.isBlank c = false := by
  have apart : ∀ interval ∈ Text.decimalIntervals, ∀ blanks ∈ Text.blankIntervals,
      interval.2 < blanks.1 ∨ blanks.2 < interval.1 := by decide
  rw [Text.decimalDigit?, Option.isSome_map, List.find?_isSome] at stands
  obtain ⟨interval, member, inside⟩ := stands
  rw [Bool.and_eq_true, decide_eq_true_eq, decide_eq_true_eq] at inside
  rw [Text.isBlank, Text.inIntervals, List.any_eq_false]
  intro blanks listed within
  rw [Bool.and_eq_true, decide_eq_true_eq, decide_eq_true_eq] at within
  have := apart interval member blanks listed
  omega

/-- No blank stands in a text that denotes a number. -/
theorem Denotes.not_blank {value : Int} (denotes : Denotes chars value) :
    ∀ c ∈ chars, Text.isBlank c = false := by
  have visible {chars : List Char} {digits : List Nat} (numeral : Numeral chars digits) :
      ∀ c ∈ chars, Text.isBlank c = false := by
    intro c member
    rcases numeral.mem c member with digitLike | rfl
    · exact isBlank_of_decimalDigit? digitLike
    · decide
  cases denotes with
  | plain numeral _ => exact visible numeral
  | plus numeral _ => exact List.forall_mem_cons.mpr ⟨by decide, visible numeral⟩
  | minus numeral _ => exact List.forall_mem_cons.mpr ⟨by decide, visible numeral⟩

/-- A trimmed text has no blank left that a number could stand between. -/
theorem plainLiteral_trim (text : String) :
    plainLiteral (Text.trim text) = (Text.trim text).toList.map plainDigit := by
  have numeric {c : Char} (visible : Text.isBlank c = false) : isNumericBlank c = false := by
    rw [isNumericBlank, visible, Bool.false_and]
  have chars : (Text.trim text).toList = Text.trimmed text.toList := String.toList_ofList
  have front : ∀ c ∈ (Text.trim text).toList.head?, isNumericBlank c = false := by
    intro c first
    exact numeric (Text.head_trimmed_not_blank (chars ▸ first))
  have back : ∀ c ∈ (Text.trim text).toList.reverse.head?, isNumericBlank c = false := by
    intro c last
    rw [List.head?_reverse] at last
    exact numeric (Text.last_trimmed_not_blank (chars ▸ last))
  rw [plainLiteral, Text.dropWhile_of_head? front, Text.dropWhile_of_head? back,
    List.reverse_reverse]

/-- A trimmed text is read as a whole number exactly if it denotes that number. -/
theorem integer_trim_eq_ok_iff {text : String} {value : Int} :
    integer (Text.trim text) = .ok value ↔
      ∃ core, Text.Padded core text ∧ Denotes core.toList value := by
  have read : integer (Text.trim text) = .ok value ↔ Denotes (Text.trim text).toList value := by
    rw [denotes_iff]
    apply integer_eq_ok_iff_of_splitSign
    rw [plainLiteral_trim, splitSign_map]
  rw [read]
  constructor
  · intro denotes
    exact ⟨Text.trim text, Text.padded_trim text, denotes⟩
  · rintro ⟨core, padded, denotes⟩
    have trimmed : Text.trim text = core := padded.trim_eq
      (fun c first => denotes.not_blank c (List.mem_of_mem_head? first))
      (fun c last => denotes.not_blank c (List.mem_of_mem_getLast? last))
    rwa [trimmed]

end Signs

/-! ## ASCII digits -/

/-- The digits of ten are the ASCII digits. -/
theorem isDigitOf_ten (c : Char) : isDigitOf 10 c = c.isDigit := by
  have code : c.toNat = c.val.toNat := rfl
  rw [Bool.eq_iff_iff, isDigitOf, digitValue?, Char.isDigit]
  simp only [UInt32.le_iff_toNat_le, ← code, ge_iff_le]
  grind

/-- A plain digit has its distance from zero as its value. -/
theorem digitValue?_of_isDigit {c : Char} (digit : c.isDigit = true) :
    digitValue? c = some (c.toNat - 0x30) := by
  have range : 0x30 ≤ c.toNat ∧ c.toNat ≤ 0x39 := by
    simpa [Char.isDigit, UInt32.le_iff_toNat_le] using digit
  rw [digitValue?]
  simp [range]

/-- A digit is no blank. -/
theorem isBlank_of_isDigit {c : Char} (digit : c.isDigit = true) : Text.isBlank c = false := by
  apply isBlank_of_decimalDigit?
  rw [← isDigitOf_ten] at digit
  rw [decimalDigit?_of_isDigitOf digit, Option.isSome_some]

/-- ASCII digits spell the number that they are the decimal form of. -/
theorem spelled_eq_ofDigitChars {chars : List Char} (ascii : ∀ c ∈ chars, c.isDigit = true) :
    spelled 10 chars = Nat.ofDigitChars 10 chars 0 := by
  have folded (value : Nat) : chars.foldl
      (fun value c => ((digitValue? c).map (value * 10 + ·)).getD value) value =
        Nat.ofDigitChars 10 chars value := by
    induction chars generalizing value with
    | nil => rfl
    | cons c rest ih =>
      rw [List.forall_mem_cons] at ascii
      rw [List.foldl_cons, digitValue?_of_isDigit ascii.1, ih ascii.2, Nat.ofDigitChars_cons,
        Option.map_some, Option.getD_some, Nat.mul_comm]
      rfl
  exact folded 0

end Number

end CompletionServer
