/-!
# Lines of a text

A line ends at a line feed, a carriage return, both together, a vertical tab, a form feed, the
first three information separators, the next-line control, or a line or paragraph separator.
-/

namespace CompletionServer.Text

/-- Whether the character ends a line. -/
def endsLine (c : Char) : Bool :=
  let code := c.toNat
  (0x0a ≤ code && code ≤ 0x0d) || (0x1c ≤ code && code ≤ 0x1e) || code == 0x85 ||
    code == 0x2028 || code == 0x2029

/-- Lines of a character list, without their ends. A final line end starts no further line. -/
def splitLines : List Char → List (List Char)
  | [] => []
  | '\r' :: '\n' :: rest => [] :: splitLines rest
  | c :: rest =>
    if endsLine c then [] :: splitLines rest
    else
      match splitLines rest with
      | [] => [[c]]
      | line :: lines =>
        -- A line end directly after `c` has opened the empty line that `c` belongs to.
        (c :: line) :: lines

/-- Lines of a text, without their ends. -/
def lines (text : String) : List String :=
  (splitLines text.toList).map String.ofList

/-- Both one-character and two-character ends of a line become a line feed. -/
def unifyLineEnds : List Char → List Char
  | [] => []
  | '\r' :: '\n' :: rest => '\n' :: unifyLineEnds rest
  | '\r' :: rest => '\n' :: unifyLineEnds rest
  | c :: rest => c :: unifyLineEnds rest

end CompletionServer.Text
