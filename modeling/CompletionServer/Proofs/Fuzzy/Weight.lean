import CompletionServer.Fuzzy.Weight
import CompletionServer.Proofs.Fuzzy.Similarity
import CompletionServer.Proofs.Fuzzy.Span
import Mathlib.Algebra.Order.Field.Rat
import Mathlib.Tactic.FieldSimp
import Mathlib.Tactic.Linarith
import Mathlib.Tactic.NormNum
import Mathlib.Tactic.Positivity

/-!
# What a weight says

Read in exact fractions, the score of a match is positive and at most one, and it is one only for a
match that covers query and window in full and begins at once. In double precision such a match has
the weight one without any error, because the quotient of a number and itself is exact.
-/

namespace CompletionServer

/-! ## Double precision -/

namespace Number.Binary64

/-- The bits of the quotient of a number and itself are those of one. -/
theorem nearestBits_self {n : Nat} (positive : 0 < n) : nearestBits n n = 1023 * Nat.pow 2 52 := by
  have quotient (power : Nat) : roundDiv (n * power) n = power := by
    simp [roundDiv, positive]
  have digits : n * Nat.pow 2 53 / n = Nat.pow 2 53 := Nat.mul_div_cancel_left _ positive
  have size : (n.log2 : Int) - n.log2 = 0 := Int.sub_self _
  have guess : max ((0 : Int) - 53) leastExponent = -53 := rfl
  -- The quotient has 54 digits at the exponent guessed, so the next one is taken.
  simp only [nearestBits, Nat.ne_of_gt positive, decide_false, Bool.or_self, Bool.false_eq_true,
    if_false, size, guess, Int.reduceLE, Int.reduceNeg, Int.reduceAdd, Int.reduceToNat, digits,
    Nat.le_refl, if_true, quotient]
  rfl

/-- The quotient of a number and itself is one. -/
theorem nearest_self {n : Nat} (positive : 0 < n) : nearest false n n = 1.0 := by
  rw [nearest, nearestBits_self positive]
  decide

end Number.Binary64

namespace Fuzzy

/-! ## Matches -/

namespace Window

variable {c : Char} {query text : List Char}

/-- What the weight is made of where a query is found in a window. -/
def found (window : Window c query text) : Match :=
  ⟨coveredChars (c :: query) (c :: window.used), (c :: query).length + (c :: window.used).length,
    window.before.length⟩

/-- The match of a query is that of its window. -/
theorem match?_eq (window : Window c query text) :
    match? (c :: query) text = some window.found := by
  have span := spanOf_eq_some_iff.mpr ⟨window, rfl, rfl⟩
  have cut : (text.drop window.before.length).take (window.before.length + window.used.length + 1 -
      window.before.length) = c :: window.used := window.between_eq
  simp only [match?, span, Option.map_some, cut]
  rfl

/-- A query has one match, whatever its window. -/
theorem found_eq (window other : Window c query text) : window.found = other.found := by
  have same := window.match?_eq.symm.trans other.match?_eq
  exact Option.some.inj same

/-- Runs cover no more than half of the characters of query and window together. -/
theorem covered_le (window : Window c query text) :
    2 * window.found.covered ≤ window.found.total := by
  have covers : window.found.covered ≤ (c :: query).length := coveredChars_le _ _
  have fits := window.length_le
  show 2 * window.found.covered ≤ (c :: query).length + (c :: window.used).length
  rw [List.length_cons] at covers
  rw [List.length_cons, List.length_cons]
  omega

/-- If runs cover half of them, the window is the query. -/
theorem used_eq_of_full (window : Window c query text)
    (full : 2 * window.found.covered = window.found.total) : window.used = query := by
  have covers : window.found.covered ≤ (c :: query).length := coveredChars_le _ _
  have total : window.found.total = (c :: query).length + (c :: window.used).length := rfl
  rw [List.length_cons] at covers
  rw [List.length_cons, List.length_cons] at total
  apply window.used_eq
  omega

/-- A text that begins with the query's first character has nothing before its window. -/
theorem before_eq_nil (window : Window c query text) (begins : text.head? = some c) :
    window.before = [] := by
  obtain ⟨before, used, rest, rfl, absent, _⟩ := window
  cases before with
  | nil => rfl
  | cons d before =>
    obtain rfl : d = c := Option.some.inj begins
    exact absurd List.mem_cons_self absent

/-- A query in front of a text is covered in full and begins at once. -/
theorem found_of_prefix (window : Window c query text) (begins : c :: query <+: text) :
    window.found = ⟨(c :: query).length, (c :: query).length + (c :: query).length, 0⟩ := by
  obtain ⟨rest, rfl⟩ := begins
  rw [window.found_eq (ofPrefix c query rest)]
  show (⟨coveredChars (c :: query) (c :: query), _, 0⟩ : Match) = _
  rw [coveredChars_self]
  rfl

end Window

/-! ## Exact scores -/

namespace Match

/-- The score in exact fractions. -/
def exact (found : Match) : ℚ :=
  found.scoreIn fun numerator denominator => (numerator : ℚ) / denominator

/-- The exact weight is a mean of how much is covered and how early it begins. -/
theorem exact_eq (found : Match) :
    found.exact =
      7 / 10 * (2 * found.covered / found.total) + 3 / 10 * (1 / (1 + found.first)) := by
  simp only [exact, scoreIn, Nat.cast_mul, Nat.cast_add, Nat.cast_one, Nat.cast_ofNat]
  norm_num

/-- The place of a match is rewarded with up to three tenths. -/
theorem position_le_exact (found : Match) : 3 / 10 * (1 / (1 + found.first)) ≤ found.exact := by
  have compact : (0 : ℚ) ≤ 2 * found.covered / found.total := by positivity
  rw [exact_eq]
  linarith

/-- The exact weight of a match is positive. -/
theorem exact_pos (found : Match) : 0 < found.exact := by
  have position : (0 : ℚ) < 3 / 10 * (1 / (1 + found.first)) := by positivity
  exact lt_of_lt_of_le position found.position_le_exact

variable {found : Match}

/-- Neither share of the score is greater than one. -/
theorem shares_le_one (fits : 2 * found.covered ≤ found.total) :
    (2 * found.covered / found.total : ℚ) ≤ 1 ∧ (1 / (1 + found.first) : ℚ) ≤ 1 := by
  have covers : (2 * found.covered : ℚ) ≤ found.total := by exact_mod_cast fits
  have later : (0 : ℚ) ≤ found.first := Nat.cast_nonneg _
  constructor
  · exact div_le_one_of_le₀ covers (Nat.cast_nonneg _)
  · apply div_le_one_of_le₀ <;> linarith

/-- The exact weight is at most one if no more is covered than there is. -/
theorem exact_le_one (fits : 2 * found.covered ≤ found.total) : found.exact ≤ 1 := by
  obtain ⟨compact, early⟩ := shares_le_one fits
  rw [exact_eq]
  linarith

/-- The score is one only if all is covered and the match begins at once. -/
theorem exact_eq_one_iff (fits : 2 * found.covered ≤ found.total) (some : 0 < found.total) :
    found.exact = 1 ↔ 2 * found.covered = found.total ∧ found.first = 0 := by
  have positive : (0 : ℚ) < found.total := by exact_mod_cast some
  have later : (0 : ℚ) < 1 + found.first := by positivity
  rw [exact_eq]
  constructor
  · intro one
    obtain ⟨compact, early⟩ := shares_le_one fits
    have full : (2 * found.covered / found.total : ℚ) = 1 := by linarith
    have first : (1 / (1 + found.first) : ℚ) = 1 := by linarith
    rw [div_eq_one_iff_eq positive.ne'] at full
    rw [div_eq_one_iff_eq later.ne'] at first
    refine ⟨by exact_mod_cast full, ?_⟩
    have zero : (found.first : ℚ) = 0 := by linarith
    exact_mod_cast zero
  · rintro ⟨full, first⟩
    have all : (2 * found.covered : ℚ) = found.total := by exact_mod_cast full
    rw [all, first, div_self positive.ne']
    norm_num

end Match

/-- A match has the score one only if the text begins with the query. -/
theorem Window.exact_eq_one_iff {c : Char} {query text : List Char} (window : Window c query text) :
    window.found.exact = 1 ↔ c :: query <+: text := by
  have some : 0 < window.found.total := Nat.add_pos_left (Nat.succ_pos _) _
  rw [Match.exact_eq_one_iff window.covered_le some]
  constructor
  · rintro ⟨full, first⟩
    have before : window.before = [] := List.eq_nil_of_length_eq_zero first
    refine ⟨window.rest, ?_⟩
    have split := window.split
    rw [before, window.used_eq_of_full full, List.nil_append] at split
    exact split.symm
  · intro begins
    rw [window.found_of_prefix begins]
    exact ⟨Nat.two_mul _, rfl⟩

/-- A text that begins with the query's first character has at least three tenths. -/
theorem Window.three_tenths_le {c : Char} {query text : List Char} (window : Window c query text)
    (begins : text.head? = some c) : 3 / 10 ≤ window.found.exact := by
  have first : window.found.first = 0 := by
    show window.before.length = 0
    rw [window.before_eq_nil begins]
    rfl
  have position := window.found.position_le_exact
  rw [first] at position
  norm_num at position
  exact position

/-! ## Weights of texts -/

/-- The score of a text in exact fractions. -/
def exactScore (query text : String) : ℚ := weightBy Match.exact query text

/-- Nothing is searched in an empty text. -/
theorem haystack_empty (query : String) : haystack query "" = "" := by
  rw [haystack]
  split <;> rfl

section

variable {α : Type} [OfScientific α] {rate : Match → α} {query text : String} {c : Char}
  {rest : List Char}

/-- A text that something is found in is not empty. -/
theorem ne_empty_of_window (window : Window c rest (haystack query text).toList) : text ≠ "" := by
  intro empty
  have split := window.split
  simp [empty, haystack_empty] at split

/-- A query that is found in a text is rated by its match. -/
theorem weightBy_of_window (typed : query.toList = c :: rest)
    (window : Window c rest (haystack query text).toList) :
    weightBy rate query text = rate window.found := by
  have nonempty : query ≠ "" := by
    rintro rfl
    exact List.cons_ne_nil c rest typed.symm
  rw [weightBy, if_neg nonempty, if_neg (ne_empty_of_window window), typed, window.match?_eq]

/-- A query that does not occur in a text gives it no weight. -/
theorem weightBy_of_absent (typed : query.toList = c :: rest)
    (absent : ¬ (c :: rest).Sublist (haystack query text).toList) :
    weightBy rate query text = 0.0 := by
  have nonempty : query ≠ "" := by
    rintro rfl
    exact List.cons_ne_nil c rest typed.symm
  have unfound : match? (c :: rest) (haystack query text).toList = none := by
    rw [match?, spanOf_eq_none_iff.mpr absent, Option.map_none]
  rw [weightBy, if_neg nonempty, typed, unfound, ite_self]

end

/-- A match that covers everything and begins at once has the score one in double precision. -/
theorem score_full {n : Nat} (positive : 0 < n) : (⟨n, n + n, 0⟩ : Match).score = 1.0 := by
  have compact : Number.Binary64.nearest false (2 * n) (n + n) = 1.0 := by
    rw [Nat.two_mul]
    exact Number.Binary64.nearest_self (by omega)
  have early : Number.Binary64.nearest false 1 (1 + 0) = 1.0 :=
    Number.Binary64.nearest_self Nat.one_pos
  simp only [Match.score, Match.scoreIn, compact, early]
  decide

/-- A text that begins with the query has the weight one. -/
theorem weight_of_prefix {query text : String} (typed : query ≠ "")
    (begins : query.toList <+: (haystack query text).toList) : weight query text = 1.0 := by
  cases chars : query.toList with
  | nil => exact absurd (String.toList_eq_nil_iff.mp chars) typed
  | cons c rest =>
    rw [chars] at begins
    have some : 0 < (c :: rest).length := Nat.succ_pos _
    obtain ⟨window⟩ := Window.nonempty_iff.mpr begins.sublist
    rw [weight, weightBy_of_window chars window, window.found_of_prefix begins, score_full some]
    decide

end Fuzzy

end CompletionServer
