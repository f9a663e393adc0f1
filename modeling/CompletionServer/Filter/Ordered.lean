import CompletionServer.Fault

/-!
# Filtering in parts

A list may be filtered in one piece, or cut into parts that workers filter on their own; the results
are put together in the order of the parts. A test may fail, and the first failure in the order of
the list is the outcome.
-/

namespace CompletionServer.Filter

/-- Whether there are workers to give parts to. -/
inductive Pool
  | absent
  | working
  | closed
  deriving DecidableEq, Repr

/-- The items that pass a test, up to the first failure. -/
def serial {α : Type} (test : α → Except Fault Bool) : List α → Except Fault (List α)
  | [] => .ok []
  | item :: rest => do
    let passes ← test item
    let others ← serial test rest
    return if passes then item :: others else others

/-- A list cut into parts of a length, the last one possibly shorter; `count` bounds the number of
parts. -/
def cutInto {α : Type} (length : Nat) : (count : Nat) → List α → List (List α)
  | 0, _ => []
  | _ + 1, [] => []
  | count + 1, item :: rest =>
    (item :: rest).take length :: cutInto length count ((item :: rest).drop length)

/-- Parts filtered each on its own, and put together in order. -/
def inParts {α : Type} (test : α → Except Fault Bool) (parts : List (List α)) :
    Except Fault (List α) := do
  return (← parts.mapM (serial test)).flatten

/-- The items that pass a test, filtered in parts if there are workers and more items than one part
holds. A negative length makes no part at all. -/
def ordered {α : Type} (pool : Pool) (length : Int) (test : α → Except Fault Bool)
    (items : List α) : Except Fault (List α) :=
  if pool = .absent || (items.length : Int) ≤ length then serial test items
  else if length = 0 then .error .emptyPart
  else if length < 0 then .ok []
  else if pool = .closed then .error .poolClosed
  else inParts test (cutInto length.toNat items.length items)

end CompletionServer.Filter
