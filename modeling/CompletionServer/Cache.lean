/-!
# The completion cache

The cache holds the candidates of a bounded number of signatures. Each entry carries the number of
its insertion; when there are too many, the entry with the least number goes. Reading an entry or
writing it again keeps its number.
-/

namespace CompletionServer

/-- An entry: its signature, what it holds, and the number of its insertion. -/
structure CacheEntry (α : Type) where
  signature : String
  payload : α
  order : Nat
  deriving DecidableEq, Repr

/-- A bounded cache. -/
structure Cache (α : Type) where
  capacity : Nat
  entries : List (CacheEntry α)
  nextOrder : Nat

namespace Cache

variable {α : Type}

/-- An empty cache. It holds at least one entry whatever capacity is asked for. -/
def create (capacity : Int) : Cache α :=
  ⟨(max 1 capacity).toNat, [], 0⟩

/-- The entry of a signature. -/
def entry? (cache : Cache α) (signature : String) : Option (CacheEntry α) :=
  cache.entries.find? (·.signature == signature)

/-- What is held for a signature. -/
def get? (cache : Cache α) (signature : String) : Option α :=
  (cache.entry? signature).map (·.payload)

/-- Whether something is held for a signature. -/
def contains (cache : Cache α) (signature : String) : Bool :=
  cache.entries.any (·.signature == signature)

/-- The number of entries. -/
def size (cache : Cache α) : Nat :=
  cache.entries.length

/-- The entry inserted first. -/
def oldest? : List (CacheEntry α) → Option (CacheEntry α)
  | [] => none
  | entry :: rest =>
    match oldest? rest with
    | none => some entry
    | some other => if other.order < entry.order then some other else some entry

/-- The entries without the oldest, if there are more than the capacity. -/
def evict (capacity : Nat) (entries : List (CacheEntry α)) : List (CacheEntry α) :=
  if capacity < entries.length then
    match oldest? entries with
    | some oldest => entries.filter (·.signature != oldest.signature)
    | none => entries
  else entries

/-- Something put under a signature. -/
def put (cache : Cache α) (signature : String) (payload : α) : Cache α :=
  if cache.contains signature then
    { cache with
      entries := cache.entries.map fun entry =>
        if entry.signature == signature then { entry with payload } else entry }
  else
    { cache with
      entries := evict cache.capacity (cache.entries ++ [⟨signature, payload, cache.nextOrder⟩])
      nextOrder := cache.nextOrder + 1 }

/-- The cache without its entries; the numbers go on. -/
def clear (cache : Cache α) : Cache α :=
  { cache with entries := [] }

/-- The signatures in the order of their insertion. -/
def signatures (cache : Cache α) : List String :=
  (cache.entries.mergeSort fun left right => decide (left.order ≤ right.order)).map (·.signature)

end Cache

end CompletionServer
