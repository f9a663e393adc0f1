import CompletionServer.Number.Binary64
import CompletionServer.Scalar

/-!
# The order of a set's members

A set keeps its members in a row of slots and lists them slot by slot. The slot of a number follows
from its residue, which equal numbers share; if it is taken, the slots right behind it are tried,
then others farther away. What is no number has no residue, and a set that holds such a member
lists its members as they were given. -/

namespace CompletionServer.Yaml.MemberOrder

/-- Residues are taken by this prime. Powers of two repeat after 61 of them. -/
def modulus : Nat := Nat.pow 2 61 - 1

/-- A magnitude's residue with its sign, as an unsigned word. Minus one is counted as minus two. -/
def signed (negative : Bool) (residue : Nat) : Nat :=
  if negative && residue ≠ 0 then Nat.pow 2 64 - max 2 residue else residue

/-- The residue of infinity. -/
def infiniteResidue : Nat := 314159

/-- The residue of a member, none if it is no number. -/
def residue? : Scalar → Option Nat
  | .bool value => some (if value then 1 else 0)
  | .integer value => some (signed (decide (value < 0)) (value.natAbs % modulus))
  | .float value =>
    match Number.Binary64.ofFloat value with
    | .nan => none
    | .infinite negative => some (signed negative infiniteResidue)
    | .finite negative mantissa exponent =>
      some (signed negative (mantissa * Nat.pow 2 (exponent % 61).toNat % modulus))
  | _ => none

/-- The number of slots for so many members: at least eight, and from the fifth member on more than
twice as many as there are members. -/
def slotCount (members : Nat) : Nat :=
  if members < 5 then 8 else max 8 (Nat.pow 2 (Nat.log2 (2 * members) + 1))

/-- The slots right behind one that are tried with it, if the row is long enough. -/
def neighbours : Nat := 9

/-- The slots to try, in rounds. Each round begins at a slot; the bits of the residue that are still
`unused` lead to the next one. -/
def slots (count : Nat) : (rounds slot unused : Nat) → List Nat
  | 0, _, _ => []
  | rounds + 1, slot, unused =>
    let tried := if slot + neighbours < count then neighbours + 1 else 1
    (List.range tried).map (slot + ·) ++
      slots count rounds ((slot * 5 + 1 + unused / 32) % count) (unused / 32)

/-- A member put into the first free slot of those to try. After the rounds in which bits of the
residue are left, as many rounds as there are slots reach each of them. -/
def insert {α : Type} (row : List (Option α)) (residue : Nat) (member : α) : List (Option α) :=
  let free (slot : Nat) : Bool := (row[slot]?.map Option.isNone).getD false
  match (slots row.length (row.length + 13) (residue % row.length) residue).find? free with
  | some slot => row.set slot (some member)
  | none => row

/-- Members with their residues, in the order of their slots. -/
def bySlot {α : Type} (members : List (Nat × α)) : List α :=
  let row := List.replicate (slotCount members.length) none
  (members.foldl (fun row (residue, member) => insert row residue member) row).filterMap id

/-- Members in the order that a set lists them in. -/
def listed {α : Type} (residue? : α → Option Nat) (members : List α) : List α :=
  match members.mapM fun member => (residue? member).map (·, member) with
  | some numbered => bySlot numbered
  | none => members

end CompletionServer.Yaml.MemberOrder
