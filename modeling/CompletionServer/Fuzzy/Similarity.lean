/-!
# Similarity of two texts

The longest common run of characters is found, then the longest on its left and on its right, and so
on. The similarity is twice the number of characters covered over the number of all. In a second
text of at least two hundred characters the frequent ones do not begin a run, though they may extend
one.
-/

namespace CompletionServer.Fuzzy

/-- A common run: where it begins in both texts, and its length. -/
structure CommonRun where
  left : Nat
  right : Nat
  size : Nat
  deriving DecidableEq, Repr

/-- The shortest second text of which frequent characters are set aside. -/
def longText : Nat := 200

/-- Whether a character is too frequent in a long text to begin a run. -/
def isPopular (text : List Char) (c : Char) : Bool :=
  longText ≤ text.length && text.length / 100 + 1 < text.count c

/-- Lengths of the runs that end at each place of the second text, after one more character of the
first; `diagonal` holds those before it, moved by one place. -/
def nextRow (begins : Char → Bool) (c : Char) : (diagonal : List Nat) → List Char → List Nat
  | length :: diagonal, d :: rest =>
    (if d = c && begins c then length + 1 else 0) :: nextRow begins c diagonal rest
  | _, _ => []

/-- The better run of those that end after one more character; the earlier of equals stays. -/
def bestInRow (left : Nat) : (right : Nat) → (best : CommonRun) → List Nat → CommonRun
  | _, best, [] => best
  | right, best, length :: rest =>
    let best :=
      if best.size < length then ⟨left + 1 - length, right + 1 - length, length⟩ else best
    bestInRow left (right + 1) best rest

/-- The longest run, the first of equals, looked for row by row. -/
def longestFrom (begins : Char → Bool) (second : List Char) : (left : Nat) → (row : List Nat) →
    (best : CommonRun) → List Char → CommonRun
  | _, _, best, [] => best
  | left, row, best, c :: rest =>
    let row := nextRow begins c (0 :: row) second
    longestFrom begins second (left + 1) row (bestInRow left 0 best row) rest

/-- The length of the common front of two texts. -/
def commonFront : List Char → List Char → Nat
  | a :: first, b :: second => if a = b then commonFront first second + 1 else 0
  | _, _ => 0

/-- The longest run of two texts, extended on both sides as far as they agree. -/
def longestRun (begins : Char → Bool) (first second : List Char) : CommonRun :=
  let best := longestFrom begins second 0 (List.replicate second.length 0) ⟨0, 0, 0⟩ first
  let back := commonFront (first.take best.left).reverse (second.take best.right).reverse
  let front :=
    commonFront (first.drop (best.left + best.size)) (second.drop (best.right + best.size))
  ⟨best.left - back, best.right - back, best.size + back + front⟩

/-- The number of characters covered by runs, cutting the texts at most `depth` times deep. -/
def covered (begins : Char → Bool) : (depth : Nat) → (first second : List Char) → Nat
  | 0, _, _ => 0
  | depth + 1, first, second =>
    let run := longestRun begins first second
    if run.size = 0 then 0
    else
      run.size + covered begins depth (first.take run.left) (second.take run.right) +
        covered begins depth (first.drop (run.left + run.size))
          (second.drop (run.right + run.size))

/-- The number of characters of two texts that common runs cover. Each cut takes at least one
character away from the first text. -/
def coveredChars (first second : List Char) : Nat :=
  let popular := first.filter (isPopular second)
  covered (fun c => !popular.contains c) (first.length + 1) first second

end CompletionServer.Fuzzy
