import CompletionServer.Fuzzy.Similarity
import Mathlib.Data.List.DropRight

/-!
# How much common runs cover

Runs never cover more than the first text holds, and of a text and itself they cover everything.
Both hold whatever characters may begin a run, so also if all are too frequent. A run that is found
lies inside the first text because no row has a length greater than its number. A text's longest run
with itself is found at one place on both sides, because it is met there before it is met elsewhere,
and it then extends to the whole text.
-/

namespace CompletionServer.Fuzzy

variable {begins : Char → Bool}

/-- Where a run ends in the first text. -/
def CommonRun.leftEnd (run : CommonRun) : Nat := run.left + run.size

/-! ## Rows -/

/-- A row comes from the one before it place by place. -/
theorem nextRow_eq_zipWith (begins : Char → Bool) (c : Char) (diagonal : List Nat)
    (second : List Char) :
    nextRow begins c diagonal second =
      List.zipWith (fun length d => if d = c && begins c then length + 1 else 0) diagonal
        second := by
  induction diagonal generalizing second with
  | nil => cases second <;> rfl
  | cons length diagonal ih =>
    cases second with
    | nil => rfl
    | cons d second => rw [nextRow, ih, List.zipWith_cons_cons]

/-- Lengths grow by at most one from row to row. -/
theorem le_of_mem_nextRow {c : Char} {diagonal : List Nat} {second : List Char} {bound n : Nat}
    (bounded : ∀ length ∈ diagonal, length ≤ bound) (inRow : n ∈ nextRow begins c diagonal second) :
    n ≤ bound + 1 := by
  rw [nextRow_eq_zipWith, ← List.map_uncurry_zip_eq_zipWith] at inRow
  obtain ⟨⟨length, d⟩, inZip, rfl⟩ := List.mem_map.mp inRow
  have small : length ≤ bound := bounded length (List.of_mem_zip inZip).1
  show (if d = c && begins c then length + 1 else 0) ≤ bound + 1
  split <;> omega

/-- A row in which no length is greater than the best changes nothing. -/
theorem bestInRow_eq_self {left right : Nat} {best : CommonRun} {row : List Nat}
    (bounded : ∀ length ∈ row, length ≤ best.size) : bestInRow left right best row = best := by
  induction row generalizing right with
  | nil => rfl
  | cons length row ih =>
    have small : ¬ best.size < length := Nat.not_lt.mpr (bounded length List.mem_cons_self)
    rw [bestInRow, if_neg small]
    exact ih fun other inRow => bounded other (List.mem_cons_of_mem _ inRow)

/-- A row is looked through from its front. -/
theorem bestInRow_append (left right : Nat) (best : CommonRun) (front back : List Nat) :
    bestInRow left right best (front ++ back) =
      bestInRow left (right + front.length) (bestInRow left right best front) back := by
  induction front generalizing right best with
  | nil => rfl
  | cons length front ih =>
    rw [List.cons_append, bestInRow, bestInRow, ih, List.length_cons]
    congr 1
    omega

/-! ## Runs lie inside the first text -/

/-- After a row the best run ends no later than the row, if no length in it is greater than its
number. -/
theorem leftEnd_bestInRow_le {left : Nat} (right : Nat) {best : CommonRun} {row : List Nat}
    (bounded : ∀ length ∈ row, length ≤ left + 1) (inside : best.leftEnd ≤ left + 1) :
    (bestInRow left right best row).leftEnd ≤ left + 1 := by
  induction row generalizing right best with
  | nil => exact inside
  | cons length row ih =>
    have short : length ≤ left + 1 := bounded length List.mem_cons_self
    rw [bestInRow]
    apply ih _ fun other inRow => bounded other (List.mem_cons_of_mem _ inRow)
    split
    · show left + 1 - length + length ≤ left + 1
      omega
    · exact inside

/-- The run that is found row by row ends inside the first text. -/
theorem leftEnd_longestFrom_le {second rest : List Char} {left : Nat} {row : List Nat}
    {best : CommonRun} (bounded : ∀ length ∈ row, length ≤ left) (inside : best.leftEnd ≤ left) :
    (longestFrom begins second left row best rest).leftEnd ≤ left + rest.length := by
  induction rest generalizing left row best with
  | nil => exact inside
  | cons c rest ih =>
    have grown : ∀ length ∈ nextRow begins c (0 :: row) second, length ≤ left + 1 := by
      intro length inRow
      refine le_of_mem_nextRow (fun other inDiagonal => ?_) inRow
      rcases List.mem_cons.mp inDiagonal with rfl | inRow
      · exact Nat.zero_le left
      · exact bounded other inRow
    have later := ih grown (leftEnd_bestInRow_le 0 grown (Nat.le_succ_of_le inside))
    rw [longestFrom, List.length_cons]
    omega

/-- A common front is no longer than the first text. -/
theorem commonFront_le (first second : List Char) : commonFront first second ≤ first.length := by
  induction first generalizing second with
  | nil => exact Nat.le_refl 0
  | cons a first ih =>
    cases second with
    | nil => exact Nat.zero_le _
    | cons b second =>
      rw [commonFront, List.length_cons]
      split
      · exact Nat.succ_le_succ (ih second)
      · exact Nat.zero_le _

/-- The run that is found first, before it is extended, ends inside the first text. -/
theorem leftEnd_longestFrom_zero_le (begins : Char → Bool) (first second : List Char) :
    (longestFrom begins second 0 (List.replicate second.length 0) ⟨0, 0, 0⟩ first).leftEnd ≤
      first.length := by
  have nothing : ∀ length ∈ List.replicate second.length 0, length ≤ 0 := by
    intro length inRow
    exact Nat.le_of_eq (List.eq_of_mem_replicate inRow)
  rw [← Nat.zero_add first.length]
  exact leftEnd_longestFrom_le nothing (Nat.le_refl 0)

/-- A longest run ends inside the first text. -/
theorem leftEnd_longestRun_le (begins : Char → Bool) (first second : List Char) :
    (longestRun begins first second).leftEnd ≤ first.length := by
  have inside := leftEnd_longestFrom_zero_le begins first second
  rw [longestRun]
  generalize longestFrom begins second 0 (List.replicate second.length 0) ⟨0, 0, 0⟩ first = best
    at inside
  have back := commonFront_le (first.take best.left).reverse (second.take best.right).reverse
  have front := commonFront_le (first.drop (best.left + best.size))
    (second.drop (best.right + best.size))
  simp only [List.length_reverse, List.length_take, List.length_drop] at back front
  simp only [CommonRun.leftEnd] at inside ⊢
  omega

/-- Runs cover no more than the first text holds. -/
theorem covered_le (begins : Char → Bool) (depth : Nat) (first second : List Char) :
    covered begins depth first second ≤ first.length := by
  induction depth generalizing first second with
  | zero => exact Nat.zero_le _
  | succ depth ih =>
    have inside := leftEnd_longestRun_le begins first second
    rw [covered]
    generalize longestRun begins first second = run at inside
    split
    · exact Nat.zero_le _
    · have before := ih (first.take run.left) (second.take run.right)
      have after := ih (first.drop (run.left + run.size)) (second.drop (run.right + run.size))
      simp only [List.length_take, List.length_drop] at before after
      simp only [CommonRun.leftEnd] at inside
      omega

/-! ## A text against itself -/

/-- How many characters that may begin a run stand together before a place of a text. -/
def stretch (begins : Char → Bool) (text : List Char) (place : Nat) : Nat :=
  ((text.take place).rtakeWhile begins).length

/-- One more character makes a stretch longer or ends it. -/
theorem stretch_succ {text : List Char} {place : Nat} {c : Char} (here : text[place]? = some c) :
    stretch begins text (place + 1) = if begins c then stretch begins text place + 1 else 0 := by
  rw [stretch, List.take_add_one, here, Option.toList_some, List.rtakeWhile_concat]
  split
  · rw [List.length_append, List.length_singleton, stretch]
  · rfl

/-- The lengths, one for each place, that are left after some rows of a text against itself. At
every place there is a run no longer than the stretch before it, nor than the stretch that the rows
end with; at their own place it is that stretch. -/
structure AgainstItself (begins : Char → Bool) (text : List Char) (rows : Nat)
    (diagonal : List Nat) : Prop where
  le_place : ∀ place length : Nat, diagonal[place]? = some length →
    length ≤ stretch begins text place
  le_rows : ∀ place length : Nat, diagonal[place]? = some length → length ≤ stretch begins text rows
  at_rows : diagonal[rows]? = some (stretch begins text rows)

namespace AgainstItself

/-- At first there are no runs. -/
theorem zero (begins : Char → Bool) (text : List Char) :
    AgainstItself begins text 0 (0 :: List.replicate text.length 0) := by
  have none : ∀ place length : Nat, (0 :: List.replicate text.length 0)[place]? = some length →
      length = 0 := by
    intro place length here
    have inside := List.mem_of_getElem? here
    rw [← List.replicate_succ] at inside
    exact List.eq_of_mem_replicate inside
  refine ⟨fun place length here => ?_, fun place length here => ?_, rfl⟩
  · rw [none place length here]
    exact Nat.zero_le _
  · rw [none place length here]
    exact Nat.zero_le _

/-- One more row. -/
theorem nextRow {text : List Char} {rows : Nat} {diagonal : List Nat} {c : Char}
    (against : AgainstItself begins text rows diagonal) (here : text[rows]? = some c) :
    AgainstItself begins text (rows + 1) (0 :: Fuzzy.nextRow begins c diagonal text) := by
  -- A length after the row belongs to one before it and a character of the text.
  have comes : ∀ place length : Nat,
      (0 :: Fuzzy.nextRow begins c diagonal text)[place + 1]? = some length →
        ∃ before d, diagonal[place]? = some before ∧ text[place]? = some d ∧
          length = if d = c && begins c then before + 1 else 0 := by
    intro place length found
    rw [List.getElem?_cons_succ, nextRow_eq_zipWith, List.getElem?_zipWith_eq_some] at found
    obtain ⟨before, d, inDiagonal, inText, rfl⟩ := found
    exact ⟨before, d, inDiagonal, inText, rfl⟩
  constructor
  · intro place length found
    cases place with
    | zero =>
      obtain rfl : 0 = length := Option.some.inj found
      exact Nat.zero_le _
    | succ place =>
      obtain ⟨before, d, inDiagonal, inText, rfl⟩ := comes place length found
      have bound := against.le_place place before inDiagonal
      rw [stretch_succ inText]
      by_cases same : d = c
      · subst same
        cases begins d <;> simp [bound]
      · simp [same]
  · intro place length found
    rw [stretch_succ here]
    cases place with
    | zero =>
      obtain rfl : 0 = length := Option.some.inj found
      exact Nat.zero_le _
    | succ place =>
      obtain ⟨before, d, inDiagonal, -, rfl⟩ := comes place length found
      have bound := against.le_rows place before inDiagonal
      cases begins c with
      | false => simp
      | true =>
        simp only [Bool.and_true, decide_eq_true_eq, if_true]
        split <;> omega
  · rw [List.getElem?_cons_succ, nextRow_eq_zipWith, List.getElem?_zipWith_eq_some]
    refine ⟨_, c, against.at_rows, here, ?_⟩
    simp [stretch_succ here]

end AgainstItself

/-- A run at one place of both texts that is no shorter than any stretch up to some row. -/
structure Leads (begins : Char → Bool) (text : List Char) (rows : Nat) (best : CommonRun) :
    Prop where
  aligned : best.left = best.right
  longest : ∀ place ≤ rows, stretch begins text place ≤ best.size

/-- One more row: before its own place no length is greater than the best, since the stretches there
were met in earlier rows, and after it none is greater than the one at its own place. -/
theorem Leads.bestInRow {text : List Char} {rows : Nat} {row : List Nat} {best : CommonRun}
    (leads : Leads begins text rows best)
    (against : AgainstItself begins text (rows + 1) (0 :: row)) :
    Leads begins text (rows + 1) (Fuzzy.bestInRow rows 0 best row) := by
  have own : row[rows]? = some (stretch begins text (rows + 1)) := by
    have found := against.at_rows
    rwa [List.getElem?_cons_succ] at found
  obtain ⟨inside, here⟩ := List.getElem?_eq_some_iff.mp own
  have parts : row = row.take rows ++ stretch begins text (rows + 1) :: row.drop (rows + 1) := by
    rw [← here, ← List.drop_eq_getElem_cons inside, List.take_append_drop]
  have earlier : ∀ length ∈ row.take rows, length ≤ best.size := by
    intro length inFront
    obtain ⟨place, before, found⟩ := List.mem_take_iff_getElem.mp inFront
    have place_lt : place < row.length := by omega
    have inDiagonal : (0 :: row)[place + 1]? = some length := by
      rw [List.getElem?_cons_succ, List.getElem?_eq_getElem place_lt, found]
    have bound := against.le_place _ _ inDiagonal
    have led := leads.longest (place + 1) (by omega)
    omega
  have later : ∀ length ∈ row.drop (rows + 1), length ≤ stretch begins text (rows + 1) := by
    intro length inBack
    obtain ⟨place, found⟩ := List.mem_iff_getElem?.mp (List.mem_of_mem_drop inBack)
    exact against.le_rows (place + 1) length found
  have reach : (row.take rows).length = rows := by
    rw [List.length_take]
    omega
  rw [parts, bestInRow_append, bestInRow_eq_self earlier, reach, Nat.zero_add, Fuzzy.bestInRow]
  by_cases longer : best.size < stretch begins text (rows + 1)
  · rw [if_pos longer, bestInRow_eq_self later]
    refine ⟨rfl, fun place upTo => ?_⟩
    rcases Nat.le_succ_iff.mp upTo with before | rfl
    · exact Nat.le_of_lt (Nat.lt_of_le_of_lt (leads.longest place before) longer)
    · exact Nat.le_refl _
  · have bound : stretch begins text (rows + 1) ≤ best.size := Nat.not_lt.mp longer
    rw [if_neg longer, bestInRow_eq_self fun length inBack => (later length inBack).trans bound]
    refine ⟨leads.aligned, fun place upTo => ?_⟩
    rcases Nat.le_succ_iff.mp upTo with before | rfl
    · exact leads.longest place before
    · exact bound

/-- The run of a text with itself that is found row by row is at one place of both. -/
theorem Leads.longestFrom {text rest : List Char} {rows : Nat} {row : List Nat} {best : CommonRun}
    (leads : Leads begins text rows best) (against : AgainstItself begins text rows (0 :: row))
    (left : text.drop rows = rest) :
    (Fuzzy.longestFrom begins text rows row best rest).left =
      (Fuzzy.longestFrom begins text rows row best rest).right := by
  induction rest generalizing rows row best with
  | nil => exact leads.aligned
  | cons c rest ih =>
    have here : text[rows]? = some c := by
      rw [← List.head?_drop, left, List.head?_cons]
    have after : text.drop (rows + 1) = rest := by
      rw [← List.tail_drop, left, List.tail_cons]
    have next := against.nextRow here
    exact ih (leads.bestInRow next) next after

/-- A text and itself have all of it as their common front. -/
theorem commonFront_self (text : List Char) : commonFront text text = text.length := by
  induction text with
  | nil => rfl
  | cons c text ih => rw [commonFront, if_pos rfl, ih, List.length_cons]

/-- The longest run of a text with itself is the whole text, whatever may begin a run. -/
theorem longestRun_self (begins : Char → Bool) (text : List Char) :
    longestRun begins text text = ⟨0, 0, text.length⟩ := by
  have inside := leftEnd_longestFrom_zero_le begins text text
  have leads : Leads begins text 0 ⟨0, 0, 0⟩ := by
    refine ⟨rfl, fun place first => ?_⟩
    rw [Nat.le_zero.mp first]
    exact Nat.le_refl 0
  have aligned := leads.longestFrom (AgainstItself.zero begins text) rfl
  rw [longestRun]
  rw [List.drop_zero] at aligned
  generalize Fuzzy.longestFrom begins text 0 (List.replicate text.length 0) ⟨0, 0, 0⟩ text = best
    at inside aligned
  simp only [CommonRun.leftEnd] at inside
  simp only [← aligned, commonFront_self, List.length_reverse, List.length_take, List.length_drop,
    CommonRun.mk.injEq]
  omega

/-- Runs cover all of a text that is compared with itself. -/
theorem covered_self (begins : Char → Bool) (depth : Nat) (text : List Char) :
    covered begins (depth + 1) text text = text.length := by
  rw [covered, longestRun_self]
  by_cases empty : text.length = 0
  · simp only [empty, if_true]
  · have before := covered_le begins depth (text.take 0) (text.take 0)
    have after := covered_le begins depth (text.drop (0 + text.length))
      (text.drop (0 + text.length))
    simp only [List.length_take, List.length_drop] at before after
    simp only [if_neg empty]
    omega

/-! ## Covered characters -/

/-- No more characters are covered than the first text has, however long the second is. -/
theorem coveredChars_le (first second : List Char) : coveredChars first second ≤ first.length :=
  covered_le _ _ first second

/-- A text covers itself, even if all its characters are frequent. -/
theorem coveredChars_self (text : List Char) : coveredChars text text = text.length :=
  covered_self _ _ text

end CompletionServer.Fuzzy
