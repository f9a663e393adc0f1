import CompletionServer.Table

/-!
# One call at a time for a signature

Calls on one signature take turns. While some call is inside, waiting or holding, the signature has
a lock and a count of the calls inside; the last call to leave removes both, so that an idle
service keeps nothing. -/

namespace CompletionServer.Service

/-- The number of a call. -/
abbrev CallNumber := Nat

/-- The number of a lock; a lock made later has another number. -/
abbrev LockNumber := Nat

/-- The locks of the signatures that calls are working on. -/
structure Guards where
  /-- The lock of a signature. -/
  locks : Table String LockNumber
  /-- How many calls are inside for a signature. -/
  users : Table String Nat
  /-- The call that holds a lock. -/
  holders : Table LockNumber CallNumber
  /-- The number of the next lock. -/
  next : LockNumber
  deriving Repr

namespace Guards

/-- No signature is in use. -/
def empty : Guards := ⟨[], [], [], 0⟩

/-- A call comes inside: the signature's lock, made if there is none, and one more user. -/
def enter (guards : Guards) (signature : String) : Guards × LockNumber :=
  match guards.locks.get? signature with
  | some lock =>
    ({ guards with
        users := guards.users.set signature ((guards.users.get? signature).getD 0 + 1) }, lock)
  | none =>
    ({ guards with
        locks := guards.locks.set signature guards.next
        users := guards.users.set signature 1
        next := guards.next + 1 }, guards.next)

/-- Whether nobody holds a lock. -/
def isFree (guards : Guards) (lock : LockNumber) : Bool :=
  !guards.holders.has lock

/-- A call takes a lock. -/
def hold (guards : Guards) (lock : LockNumber) (call : CallNumber) : Guards :=
  { guards with holders := guards.holders.set lock call }

/-- A call gives back the lock that it holds, if it holds it. -/
def release (guards : Guards) (lock : LockNumber) (call : CallNumber) : Guards :=
  if guards.holders.get? lock = some call then
    { guards with holders := guards.holders.remove lock }
  else guards

/-- A call goes outside. There is none if the signature has no count, or no lock to remove. -/
def leave? (guards : Guards) (signature : String) : Option Guards :=
  match guards.users.get? signature with
  | none => none
  | some count =>
    if count - 1 = 0 then
      if guards.locks.has signature then
        some { guards with
          users := guards.users.remove signature
          locks := guards.locks.remove signature }
      else none
    else some { guards with users := guards.users.set signature (count - 1) }

end Guards

end CompletionServer.Service
