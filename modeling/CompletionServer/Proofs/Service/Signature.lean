import CompletionServer.Proofs.Service.Transparency
import CompletionServer.Proofs.Text.Encoding

/-!
# Signatures tell positions apart

The message that is digested for a position can be read back. Digits, a sign and a path have no
zero among their bytes, so the first two zeros end the offset and the path, and everything before
the last zero is the key, whatever zeros it has itself. Different positions therefore have different
messages, and calls find the same entry of the cache only if they ask about one position or their
messages are a collision of the digest. What else a request says has no part in that.
-/

namespace CompletionServer

namespace Signature

/-! ## Reading a message back -/

/-- A zero that ends something without zeros shows where it ends. -/
theorem append_zero_inj {first second rest others : List UInt8} (plain : 0 ∉ first)
    (otherPlain : 0 ∉ second) (same : first ++ 0 :: rest = second ++ 0 :: others) :
    first = second ∧ rest = others := by
  induction first generalizing second with
  | nil =>
    cases second with
    | nil => exact ⟨rfl, (List.cons.inj same).2⟩
    | cons byte second =>
      rw [← (List.cons.inj same).1] at otherPlain
      exact absurd List.mem_cons_self otherPlain
  | cons byte first ih =>
    cases second with
    | nil =>
      rw [(List.cons.inj same).1] at plain
      exact absurd List.mem_cons_self plain
    | cons other second =>
      obtain ⟨rfl, tails⟩ := List.cons.inj same
      obtain ⟨rfl, rests⟩ := ih (List.not_mem_of_not_mem_cons plain)
        (List.not_mem_of_not_mem_cons otherPlain) tails
      exact ⟨rfl, rests⟩

/-- A text without zeros can be read back from its part of a message. -/
theorem field_append_inj {text other : String} {rest others : List UInt8}
    (plain : '\x00' ∉ text.toList) (otherPlain : '\x00' ∉ other.toList)
    (same : field text ++ rest = field other ++ others) : text = other ∧ rest = others := by
  rw [field, field, List.append_assoc, List.append_assoc] at same
  obtain ⟨bytes, rests⟩ := append_zero_inj (mt (Text.Utf8.zero_mem_encode_iff text).mp plain)
    (mt (Text.Utf8.zero_mem_encode_iff other).mp otherPlain) same
  exact ⟨Text.Utf8.encode_injective bytes, rests⟩

/-- A natural number is written in digits. -/
theorem isDigit_of_mem_repr {value : Nat} {c : Char} (member : c ∈ value.repr.toList) :
    c.isDigit = true := by
  rw [Nat.toList_repr] at member
  exact Nat.isDigit_of_mem_toDigits (by decide) (by decide) member

/-- A whole number is written without zero characters. -/
theorem zero_not_mem_toString (number : Int) : '\x00' ∉ (toString number).toList := by
  have digits (value : Nat) : '\x00' ∉ value.repr.toList :=
    fun member => absurd (isDigit_of_mem_repr member) (by decide)
  rw [Int.toString_eq_repr, Int.repr_eq_if]
  split
  · exact digits _
  · rw [String.toList_append, List.mem_append, not_or]
    exact ⟨by decide, digits _⟩

/-- A natural number can be read back from its digits. -/
theorem eq_of_repr_eq {first second : Nat} (same : first.repr = second.repr) : first = second := by
  have digits : Nat.toDigits 10 first = Nat.toDigits 10 second := by
    rw [← Nat.toList_repr, same, Nat.toList_repr]
  have read := congrArg (Nat.ofDigitChars 10 · 0) digits
  simpa only [Nat.ofDigitChars_toDigits (b := 10) (by decide) (by decide)] using read

/-- A whole number can be read back from its text. -/
theorem eq_of_toString_eq {first second : Int} (same : toString first = toString second) :
    first = second := by
  have signless (value : Nat) (rest : String) : value.repr ≠ "-" ++ rest := by
    intro signed
    have sign : '-' ∈ value.repr.toList := by simp [signed]
    exact absurd (isDigit_of_mem_repr sign) (by decide)
  rw [Int.toString_eq_repr, Int.toString_eq_repr, Int.repr_eq_if, Int.repr_eq_if] at same
  split at same
  · split at same
    · have magnitudes := eq_of_repr_eq same
      omega
    · exact absurd same (signless _ _)
  · split at same
    · exact absurd same.symm (signless _ _)
    · have digits : (-first).toNat.repr = (-second).toNat.repr := by simpa using same
      have magnitudes := eq_of_repr_eq digits
      omega

/-- Messages for paths without zeros are the same only for the same offset, path and key. -/
theorem message_inj {offset other : Int} {path otherPath key otherKey : String}
    (plain : '\x00' ∉ path.toList) (otherPlain : '\x00' ∉ otherPath.toList)
    (same : message offset path key = message other otherPath otherKey) :
    offset = other ∧ path = otherPath ∧ key = otherKey := by
  rw [message, message, List.append_assoc, List.append_assoc] at same
  obtain ⟨offsets, same⟩ :=
    field_append_inj (zero_not_mem_toString offset) (zero_not_mem_toString other) same
  obtain ⟨paths, same⟩ := field_append_inj plain otherPlain same
  have keys : Text.Utf8.encode key = Text.Utf8.encode otherKey := List.append_cancel_right same
  exact ⟨eq_of_toString_eq offsets, paths, Text.Utf8.encode_injective keys⟩

/-- The bytes that are digested for a request. -/
def messageOf (request : Request) : List UInt8 :=
  message request.byteOffset request.filePath request.cacheKey

/-- Two different messages have one digest. -/
def Collide (first second : List UInt8) : Prop :=
  first ≠ second ∧ Digest.Sha1.digest first = Digest.Sha1.digest second

/-- Requests with one signature, about paths without zeros, are about one position, or their
messages collide. -/
theorem position_eq_or_collide {request other : Request}
    (plain : '\x00' ∉ request.filePath.toList) (otherPlain : '\x00' ∉ other.filePath.toList)
    (same : ofRequest request = ofRequest other) :
    request.position = other.position ∨ Collide (messageOf request) (messageOf other) := by
  by_cases messages : messageOf request = messageOf other
  · obtain ⟨offsets, paths, keys⟩ := message_inj plain otherPlain messages
    left
    rw [Request.position, Request.position, Int.ofNat_inj.mp offsets, paths, keys]
  · exact .inr ⟨messages, same⟩

/-- Requests about one position have one signature. -/
theorem ofRequest_eq_of_position {request other : Request}
    (same : request.position = other.position) : ofRequest request = ofRequest other := by
  obtain ⟨offsets, paths, keys⟩ := Position.mk.inj same
  rw [ofRequest, ofRequest, offsets, paths, keys]

end Signature

namespace Service

/-! ## Calls -/

/-- A call is in flight or has ended. -/
def HasHad (service : Service) (call : Call) : Prop :=
  call ∈ service.calls ∨ ∃ one ∈ service.ended, one.call = call

/-- Every call has the signature of its request. -/
def Signed (service : Service) : Prop :=
  ∀ call, service.HasHad call → call.signature = Signature.ofRequest call.request

/-- Calls keep the signatures of their requests. -/
theorem Signed.stems {service next : Service} (signed : service.Signed)
    (stems : service.Stems next) : next.Signed := by
  rintro call (member | ⟨one, member, rfl⟩)
  · rcases stems.calls call member with ⟨old, inCalls, origin⟩ | ⟨⟨state, request, rfl⟩, _⟩
    · have same := signed old (.inl inCalls)
      simp only [Call.origin, Prod.mk.injEq] at origin
      rwa [origin.2.1, origin.2.2.2] at same
    · rfl
  · rcases stems.ended one member with old | new
    · exact signed one.call (.inr ⟨one, old, rfl⟩)
    · exact signed one.call (.inl new)

/-- In every service that comes about from an idle one calls have the signatures of their
requests. -/
theorem Reachable.signed {settings : Settings} {overrides : Overrides} {service : Service}
    (reachable : Reachable (create settings overrides) service) : service.Signed := by
  refine reachable.invariant Signed ?_ fun signed change => signed.stems change.stems
  rintro call (member | ⟨one, member, _⟩) <;> contradiction

/-- Signatures tell positions apart.

- For all whole numbers, all paths without zero characters and all keys, whatever characters they
  have: if the bytes that are digested are the same, so are offset, path and key.
- In every service that comes about, let two calls be about paths without zero characters, in flight
  or ended, with any prefix, relation and session prefix. If an entry of the cache is found for
  both, they are about one position, unless their messages are different and have one digest; and
  calls about one position find the same entry. -/
theorem signatures_tell_positions_apart :
    (∀ (offset other : Int) (path otherPath key otherKey : String),
      '\x00' ∉ path.toList → '\x00' ∉ otherPath.toList →
      Signature.message offset path key = Signature.message other otherPath otherKey →
      offset = other ∧ path = otherPath ∧ key = otherKey) ∧
    ∀ (settings : Settings) (overrides : Overrides) (service : Service),
      Reachable (create settings overrides) service →
      ∀ call other : Call, service.HasHad call → service.HasHad other →
        '\x00' ∉ call.request.filePath.toList → '\x00' ∉ other.request.filePath.toList →
        (∀ entry, service.cache.entry? call.signature = some entry →
          service.cache.entry? other.signature = some entry →
          call.request.position = other.request.position ∨
            Signature.Collide (Signature.messageOf call.request)
              (Signature.messageOf other.request)) ∧
        (call.request.position = other.request.position →
          service.cache.entry? call.signature = service.cache.entry? other.signature) := by
  refine ⟨fun _ _ _ _ _ _ => Signature.message_inj, ?_⟩
  intro settings overrides service reachable call other had otherHad plain otherPlain
  have signed := reachable.signed call had
  have otherSigned := reachable.signed other otherHad
  refine ⟨?_, ?_⟩
  · intro entry found otherFound
    have own : entry.signature = call.signature := by simpa using List.find?_some found
    have others : entry.signature = other.signature := by simpa using List.find?_some otherFound
    apply Signature.position_eq_or_collide plain otherPlain
    rw [← signed, ← otherSigned, ← own, others]
  · intro same
    rw [signed, otherSigned, Signature.ofRequest_eq_of_position same]

/-- What a service is given whose cache has the candidates of the first position. -/
def heldOverrides : Overrides :=
  { cache := some ⟨1, [⟨Signature.ofRequest default, [], 0⟩], 1⟩ }

/-- The request about the first position for what begins with a word. -/
def typedRequest : Request :=
  { (default : Request) with prefixText := "view" }

/-- A service with two calls about the first position, the second one with a prefix. -/
def typedService : Service :=
  ((create .standard heldOverrides).enter default default).enter default typedRequest

/-- Digits that go from the offset to the path make another message, also if the key has a zero; and
two requests with different prefixes find one entry. -/
theorem signatures_tell_positions_apart_typed :
    Signature.message 1 "2" "3\x00" ≠ Signature.message 12 "" "3\x00" ∧
      Reachable (create .standard heldOverrides) typedService ∧
      ∃ call ∈ typedService.calls, ∃ other ∈ typedService.calls, ∃ entry,
        (call.request, other.request) = (default, typedRequest) ∧
        typedService.cache.entry? call.signature = some entry ∧
        typedService.cache.entry? other.signature = some entry ∧
        (call.request.position = other.request.position ∨
          Signature.Collide (Signature.messageOf call.request)
            (Signature.messageOf other.request)) := by
  obtain ⟨messages, calls⟩ := signatures_tell_positions_apart
  have apart : Signature.message 1 "2" "3\x00" ≠ Signature.message 12 "" "3\x00" := by
    intro same
    exact absurd (messages _ _ _ _ _ _ (by decide) (by decide) same).1 (by decide)
  have reachable : Reachable (create .standard heldOverrides) typedService :=
    .step (.enter default typedRequest) (.step (.enter default default) .start rfl) rfl
  let call : Call := (create .standard heldOverrides).arrival default default
  let other : Call :=
    ((create .standard heldOverrides).enter default default).arrival default typedRequest
  have inFlight : typedService.calls = [call, other] := by
    rw [typedService, enter_eq, enter_eq]
    rfl
  have member : call ∈ typedService.calls := by simp [inFlight]
  have otherMember : other ∈ typedService.calls := by simp [inFlight]
  -- Both signatures are rewritten to one expression, so that nothing has to be digested.
  have held : typedService.cache = ⟨1, [⟨Signature.ofRequest default, [], 0⟩], 1⟩ := by
    rw [typedService, enter_eq, enter_eq]
    rfl
  have own : call.signature = Signature.ofRequest default := rfl
  have others : other.signature = Signature.ofRequest default := rfl
  have found : typedService.cache.entry? call.signature =
      some ⟨Signature.ofRequest default, [], 0⟩ := by
    simp [held, own, Cache.entry?]
  have otherFound : typedService.cache.entry? other.signature =
      some ⟨Signature.ofRequest default, [], 0⟩ := by
    simp [held, others, Cache.entry?]
  exact ⟨apart, reachable, call, member, other, otherMember, _, rfl, found, otherFound,
    (calls _ _ typedService reachable call other (.inl member) (.inl otherMember) (by decide)
      (by decide)).1 _ found otherFound⟩

end Service

end CompletionServer
