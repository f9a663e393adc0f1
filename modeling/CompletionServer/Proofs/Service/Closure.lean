import CompletionServer.Proofs.Filter.Stages
import CompletionServer.Proofs.Outcome
import CompletionServer.Proofs.Service.Course

/-!
# What a request can fail with

A request that is taken to its end has items, or is refused with an error that its client
understands: the buffer cannot be read, the tool gave no candidates, or there are no items. A fault
is what nobody foresaw. `Closes` says of a stage which refusals it makes and when exactly it ends
with a fault, and stages that follow each other close together. Faults there are, though everything
else that goes wrong at the same places is refused: a place that cannot be written, a name that is
too long, a directory that cannot be entered, an argument that holds the character that ends texts,
and an answer with numbers that are too long or with arrays or objects that are too deep.
-/

namespace CompletionServer.Service

/-! ## Stages -/

/-- A stage is never given up, makes only some refusals, and ends with just these faults. -/
structure Closes {α : Type} (result : Except Failure α) (refusal : ClientError → Prop)
    (uncaught : Fault → Prop) : Prop where
  settled : result ≠ .error .cancelled
  refused : ∀ error, result = .error (.refused error) → refusal error
  fault_iff : ∀ fault, result = .error (.fault fault) ↔ uncaught fault

namespace Closes

variable {α β : Type} {result : Except Failure α} {refusal : ClientError → Prop}
  {uncaught : Fault → Prop}

/-- A stage that succeeds, where there is no fault. -/
theorem of_ok (value : α) (none : ∀ fault, ¬ uncaught fault) :
    Closes (.ok value : Except Failure α) refusal uncaught where
  settled := nofun
  refused := nofun
  fault_iff fault := ⟨nofun, fun caught => absurd caught (none fault)⟩

/-- A stage that refuses, where there is no fault. -/
theorem of_refused {error : ClientError} (expected : refusal error)
    (none : ∀ fault, ¬ uncaught fault) :
    Closes (.error (.refused error) : Except Failure α) refusal uncaught where
  settled := nofun
  refused := by
    rintro _ ⟨⟩
    exact expected
  fault_iff fault := ⟨nofun, fun caught => absurd caught (none fault)⟩

/-- A stage that ends with the only fault that there is. -/
theorem of_fault {fault : Fault} (only : ∀ other, uncaught other ↔ other = fault) :
    Closes (.error (.fault fault) : Except Failure α) refusal uncaught where
  settled := nofun
  refused := nofun
  fault_iff other := by
    rw [only other]
    constructor
    · rintro ⟨⟩
      rfl
    · rintro rfl
      rfl

/-- A stage that makes some refusals makes no others than a wider choice of them. -/
theorem widen (closes : Closes result refusal uncaught) {wider : ClientError → Prop}
    (refusals : ∀ error, refusal error → wider error) : Closes result wider uncaught where
  settled := closes.settled
  refused error refuses := refusals error (closes.refused error refuses)
  fault_iff := closes.fault_iff

/-- The faults of a stage may be said in another way. -/
theorem congr (closes : Closes result refusal uncaught) {same : Fault → Prop}
    (faults : ∀ fault, uncaught fault ↔ same fault) : Closes result refusal same where
  settled := closes.settled
  refused := closes.refused
  fault_iff fault := (closes.fault_iff fault).trans (faults fault)

/-- Two stages, one after the other, close together: a fault is one of the first, or the first
succeeds and it is one of the second. -/
theorem bind {next : α → Except Failure β} {later : α → Fault → Prop}
    (closes : Closes result refusal uncaught)
    (closesLater : ∀ value, result = .ok value → Closes (next value) refusal (later value)) :
    Closes (result.bind next) refusal
      (fun fault => uncaught fault ∨ ∃ value, result = .ok value ∧ later value fault) := by
  cases result with
  | error failure =>
    refine ⟨?_, ?_, ?_⟩
    · rintro ⟨⟩
      exact closes.settled rfl
    · rintro error ⟨⟩
      exact closes.refused error rfl
    · intro fault
      rw [← closes.fault_iff fault]
      simp [Except.bind]
  | ok value =>
    have follows := closesLater value rfl
    refine ⟨follows.settled, follows.refused, fun fault => (follows.fault_iff fault).trans ?_⟩
    rw [← closes.fault_iff fault]
    simp

end Closes

/-! ## Making the signature -/

/-- The faults of making a signature: the offset has too many digits to be written, or else the
path, or else the key, has halves of surrogate pairs. -/
inductive SignatureFault (inquiry : Inquiry) : Fault → Prop
  | offset (long : Nat.pow 10 Number.digitLimit ≤ inquiry.byteOffset) :
      SignatureFault inquiry .overlongInteger
  | path {start stop : Nat} (short : inquiry.byteOffset < Nat.pow 10 Number.digitLimit)
      (halves : inquiry.filePath.unencodable? (fun _ => false) = some (start, stop)) :
      SignatureFault inquiry (.unencodable inquiry.filePath start stop)
  | key {start stop : Nat} (short : inquiry.byteOffset < Nat.pow 10 Number.digitLimit)
      (sound : inquiry.filePath.unencodable? (fun _ => false) = none)
      (halves : inquiry.cacheKey.unencodable? (fun _ => false) = some (start, stop)) :
      SignatureFault inquiry (.unencodable inquiry.cacheKey start stop)

/-- An offset has a text exactly if it has not too many digits. -/
theorem hasText_offset (offset : Nat) :
    (Scalar.integer offset).hasText = decide (offset < Nat.pow 10 Number.digitLimit) := by
  rw [Scalar.hasText, Int.natAbs_natCast]

/-- An inquiry with such a fault has no signature. -/
theorem SignatureFault.requestOf_eq {inquiry : Inquiry} {fault : Fault}
    (faulty : SignatureFault inquiry fault) : Signature.requestOf inquiry = .error fault := by
  rw [Signature.requestOf, Signature.ofPlace, hasText_offset]
  cases faulty with
  | offset long =>
    rw [decide_eq_false (Nat.not_lt.mpr long)]
    rfl
  | path short halves =>
    rw [decide_eq_true short, Signature.encodable, halves]
    rfl
  | key short sound halves =>
    rw [decide_eq_true short, Signature.encodable, sound, Signature.encodable, halves]
    rfl

/-- An inquiry has a signature or one of these faults. -/
theorem requestOf_eq_or_faulty (inquiry : Inquiry) :
    Signature.requestOf inquiry = .ok inquiry.request ∨ ∃ fault, SignatureFault inquiry fault := by
  by_cases short : inquiry.byteOffset < Nat.pow 10 Number.digitLimit
  · cases path : inquiry.filePath.unencodable? fun _ => false with
    | some halves => exact .inr ⟨_, .path short path⟩
    | none =>
      cases key : inquiry.cacheKey.unencodable? fun _ => false with
      | some halves => exact .inr ⟨_, .key short path key⟩
      | none =>
        left
        rw [Signature.requestOf, Signature.ofPlace, hasText_offset, decide_eq_true short,
          Signature.encodable, path, Signature.encodable, key]
        rfl
  · exact .inr ⟨_, .offset (Nat.not_lt.mp short)⟩

/-! ## Reading the buffer -/

/-- The faults of reading a buffer, whose path holds no NUL: before the file is opened an obstacle
is met that does not mean that nothing is there, which is a name too long or a directory that cannot
be entered; or the file is there and its bytes cannot be had, by something else than an error of the
system. -/
def BufferFault (system : Files.System) (filePath : String) (fault : Fault) : Prop :=
  let path := toString (Path.ofString filePath)
  Files.System.hasNul path = false ∧
    ((∃ obstacle, system.find true path = .error obstacle ∧ obstacle.isAbsence = false ∧
        fault = .system (obstacle.error path)) ∨
      (∃ place, system.find true path = .ok (place, .unreadable fault)) ∧
        ∀ error, fault ≠ .system error)

/-- A path that leads to no file cannot be read. -/
theorem readBuffer_of_isFile_false {system : Files.System} {filePath : String}
    (notFile : system.isFile (Path.ofString filePath) = .ok false) :
    readBuffer system filePath = .error (.refused (.unreadableFile filePath "not a file")) := by
  unfold readBuffer
  dsimp only
  rw [notFile]

/-- A file that cannot be read, but not by an error of the system. -/
theorem readBuffer_of_foreign {system : Files.System} {filePath : String} {fault : Fault}
    (isFile : system.isFile (Path.ofString filePath) = .ok true)
    (read : system.read (Path.ofString filePath) = .error fault)
    (foreign : ∀ error, fault ≠ .system error) :
    readBuffer system filePath = .error (.fault fault) := by
  unfold readBuffer
  dsimp only
  rw [isFile]
  dsimp only
  rw [read]
  cases fault with
  | system error => exact absurd rfl (foreign error)
  | _ => rfl

/-- Reading a buffer is refused as unreadable, or ends with its faults. -/
theorem closes_readBuffer (system : Files.System) (filePath : String) :
    Closes (readBuffer system filePath)
      (fun error => ∃ reason, error = .unreadableFile filePath reason)
      (BufferFault system filePath) := by
  cases legal : Files.System.hasNul (toString (Path.ofString filePath)) with
  | true =>
    rw [readBuffer_of_isFile_false (by simp [Files.System.isFile, legal])]
    exact .of_refused ⟨_, rfl⟩ (by simp [BufferFault, legal])
  | false =>
    cases found : system.find true (toString (Path.ofString filePath)) with
    | error obstacle =>
      cases absent : obstacle.isAbsence with
      | true =>
        rw [readBuffer_of_isFile_false (by simp [Files.System.isFile, legal, found, absent])]
        exact .of_refused ⟨_, rfl⟩ (by simp [BufferFault, found, absent])
      | false =>
        have stopped : system.isFile (Path.ofString filePath) = .error (.system
            (obstacle.error (toString (Path.ofString filePath)))) := by
          simp [Files.System.isFile, legal, found, absent]
        unfold readBuffer
        dsimp only
        rw [stopped]
        exact .of_fault (by simp [BufferFault, legal, found, absent])
    | ok spot =>
      obtain ⟨place, entry⟩ := spot
      have isFile : system.isFile (Path.ofString filePath) = .ok entry.isFile := by
        simp [Files.System.isFile, legal, found]
      cases entry with
      | file bytes =>
        have read : system.read (Path.ofString filePath) = .ok bytes := by
          simp [Files.System.read, legal, found]
        unfold readBuffer
        dsimp only
        rw [isFile, read]
        exact .of_ok _ (by simp [BufferFault, legal, found])
      | unreadable fault =>
        have read : system.read (Path.ofString filePath) = .error fault := by
          simp [Files.System.read, legal, found]
        by_cases ours : ∃ error, fault = .system error
        · obtain ⟨error, rfl⟩ := ours
          unfold readBuffer
          dsimp only
          rw [isFile, read]
          exact .of_refused ⟨_, rfl⟩ (by simp [BufferFault, legal, found])
        · have foreign : ∀ error, fault ≠ .system error := not_exists.mp ours
          rw [readBuffer_of_foreign isFile read foreign]
          refine .of_fault fun other => ?_
          simp only [BufferFault, legal, found, true_and]
          constructor
          · rintro (⟨_, ⟨⟩, _⟩ | ⟨⟨_, ⟨⟩⟩, _⟩)
            rfl
          · rintro rfl
            exact .inr ⟨⟨place, rfl⟩, foreign⟩
      | _ =>
        rw [readBuffer_of_isFile_false isFile]
        exact .of_refused ⟨_, rfl⟩ (by simp [BufferFault, legal, found])

/-! ## Running the tool -/

/-- The faults of what a run of the tool has printed that ended well: a number with too many digits,
and arrays or objects that are too deep. -/
def OutputFault (exit : Introspection.Exit) (fault : Fault) : Prop :=
  let text := Text.Utf8.decodeLossy exit.stdout
  exit.code = 0 ∧ Text.isBlankText text = false ∧
    ((∃ digits, Json.read text = .error (.tooLong digits) ∧
        fault = .integer 10 "" (.tooLong digits)) ∨
      (Json.read text = .error .arrayTooDeep ∧
        fault = .tooDeep (Introspection.decodingWork "array")) ∨
      (Json.read text = .error .objectTooDeep ∧
        fault = .tooDeep (Introspection.decodingWork "object")))

/-- What a run has printed is refused as no candidates, or ends with its faults. -/
theorem closes_candidates (exit : Introspection.Exit) :
    Closes exit.candidates (fun error => ∃ cause, error = .introspection cause)
      (OutputFault exit) := by
  rw [Introspection.Exit.candidates]
  by_cases failed : exit.code = 0
  · rw [if_neg (not_not.mpr failed), Introspection.parseBytes, Introspection.parseText]
    cases blank : Text.isBlankText (Text.Utf8.decodeLossy exit.stdout) with
    | true => exact .of_ok _ (by simp [OutputFault, blank])
    | false =>
      cases read : Json.read (Text.Utf8.decodeLossy exit.stdout) with
      | ok value =>
        cases value with
        | array items => exact .of_ok _ (by simp [OutputFault, read])
        | _ => exact .of_refused ⟨_, rfl⟩ (by simp [OutputFault, read])
      | error error =>
        cases error with
        | tooLong digits => exact .of_fault (by simp [OutputFault, failed, blank, read])
        | arrayTooDeep => exact .of_fault (by simp [OutputFault, failed, blank, read])
        | objectTooDeep => exact .of_fault (by simp [OutputFault, failed, blank, read])
        | _ => exact .of_refused ⟨_, rfl⟩ (by simp [OutputFault, read])
  · rw [if_pos failed]
    exact .of_refused ⟨_, rfl⟩ (by simp [OutputFault, failed])

/-- The tool is started as a system starts it: a command line with an argument that holds NUL is
refused as such. -/
def Surroundings.Heeds (surroundings : Surroundings) (command : List String) : Prop :=
  (∃ argument ∈ command, Files.System.hasNul argument = true) →
    surroundings.next.1 = .refuses .nulInPath

/-- The faults of a run of the tool, if there is time for one: an argument holds NUL, or the run is
refused by something else than an error of the system, or what it has printed has its faults. -/
def ToolFault (surroundings : Surroundings) (service : Service) (command : List String)
    (fault : Fault) : Prop :=
  service.allowsStart = true ∧
    ((fault = .nulInPath ∧ ∃ argument ∈ command, Files.System.hasNul argument = true) ∨
      (surroundings.next.1 = .refuses fault ∧ ∀ error, fault ≠ .system error) ∨
      ∃ exit, surroundings.next.1 = .answers exit ∧ OutputFault exit fault)

/-- A start that is refused by something else than an error of the system ends with that. -/
theorem startFailure_of_foreign {binary : String} {fault : Fault}
    (foreign : ∀ error, fault ≠ .system error) :
    Introspection.startFailure binary fault = .fault fault := by
  cases fault with
  | system error => exact absurd rfl (foreign error)
  | _ => rfl

/-- A run of the tool is refused as an introspection that failed, or ends with its faults. -/
theorem closes_introspected {surroundings : Surroundings} {command : List String}
    (heeds : surroundings.Heeds command) (service : Service) :
    Closes (introspected surroundings service) (fun error => ∃ cause, error = .introspection cause)
      (ToolFault surroundings service command) := by
  rw [introspected]
  cases allowed : service.allowsStart with
  | false => exact .of_refused ⟨_, rfl⟩ (by simp [ToolFault, allowed])
  | true =>
    by_cases nul : ∃ argument ∈ command, Files.System.hasNul argument = true
    · have refused := heeds nul
      rw [refused]
      refine .of_fault fun other => ⟨?_, fun same => ⟨allowed, .inl ⟨same, nul⟩⟩⟩
      rintro ⟨_, ⟨rfl, _⟩ | ⟨refuses, _⟩ | ⟨_, answers, _⟩⟩
      · rfl
      · exact (Introspection.Behaviour.refuses.inj (refused.symm.trans refuses)).symm
      · simp [refused] at answers
    · cases behaves : surroundings.next.1 with
      | refuses fault =>
        by_cases ours : ∃ error, fault = .system error
        · obtain ⟨error, rfl⟩ := ours
          exact .of_refused ⟨_, rfl⟩ (by simp [ToolFault, nul, behaves])
        · have foreign : ∀ error, fault ≠ .system error := not_exists.mp ours
          simp only [candidatesFrom, startFailure_of_foreign foreign]
          refine .of_fault fun other => ?_
          simp only [ToolFault, allowed, nul, behaves, true_and, and_false, false_or]
          constructor
          · rintro (⟨same, _⟩ | ⟨exit, answers, _⟩)
            · exact (Introspection.Behaviour.refuses.inj same).symm
            · simp at answers
          · rintro rfl
            exact .inl ⟨rfl, foreign⟩
      | hangs hasExited => exact .of_refused ⟨_, rfl⟩ (by simp [ToolFault, nul, behaves])
      | answers exit =>
        exact (closes_candidates exit).congr (by simp [ToolFault, allowed, nul, behaves])

/-! ## All stages -/

/-- The refusals of a request. -/
inductive Foreseen (request : Request) : ClientError → Prop
  | unreadable (reason : String) : Foreseen request (.unreadableFile request.filePath reason)
  | introspection (cause : IntrospectionError) : Foreseen request (.introspection cause)
  | empty : Foreseen request .emptyResult

/-- The faults of an inquiry. -/
inductive Uncaught (surroundings : Surroundings) (service : Service) (state : Project.State)
    (inquiry : Inquiry) (fault : Fault) : Prop
  /-- There is no signature. -/
  | signature (faulty : SignatureFault inquiry fault)
  /-- The cache has nothing, and the buffer is read in vain. -/
  | buffer (made : Signature.requestOf inquiry = .ok inquiry.request)
      (missed : service.cache.get? (Signature.ofRequest inquiry.request) = none)
      (faulty : BufferFault surroundings.system inquiry.request.filePath fault)
  /-- The cache has nothing, the buffer is read, and the tool is run in vain. -/
  | tool {contents : String} (made : Signature.requestOf inquiry = .ok inquiry.request)
      (missed : service.cache.get? (Signature.ofRequest inquiry.request) = none)
      (read : readBuffer surroundings.system inquiry.request.filePath = .ok contents)
      (faulty : ToolFault surroundings service
        (service.commandFor (service.arrival state inquiry.request) contents) fault)
  /-- The candidates are there and cannot be filtered. -/
  | filtering {candidates : List Candidate}
      (made : Signature.requestOf inquiry = .ok inquiry.request)
      (known : candidatesFor surroundings service inquiry.request = .ok candidates)
      (fails : service.pipeline.apply candidates inquiry.request state.moduleName = .error fault)

/-- Known candidates are refused if there are no items, or end with the fault of the pipeline. -/
theorem closes_answer (service : Service) (candidates : List Candidate) (request : Request)
    (state : Project.State) :
    Closes (service.answer candidates request state) (Foreseen request)
      (fun fault => service.pipeline.apply candidates request state.moduleName = .error fault) := by
  rw [answer]
  cases applied : service.pipeline.apply candidates request state.moduleName with
  | error fault => exact .of_fault (by simp [eq_comm])
  | ok items =>
    simp only [resultOf]
    split
    · exact .of_refused .empty (by simp)
    · exact .of_ok _ (by simp)

/-- Looking for candidates is refused, or ends with the faults of the buffer and of the tool. -/
theorem closes_candidatesFor {surroundings : Surroundings} {service : Service}
    {state : Project.State} {request : Request}
    (heeds : ∀ contents, readBuffer surroundings.system request.filePath = .ok contents →
      surroundings.Heeds (service.commandFor (service.arrival state request) contents)) :
    Closes (candidatesFor surroundings service request) (Foreseen request)
      (fun fault => service.cache.get? (Signature.ofRequest request) = none ∧
        (BufferFault surroundings.system request.filePath fault ∨
          ∃ contents, readBuffer surroundings.system request.filePath = .ok contents ∧
            ToolFault surroundings service
              (service.commandFor (service.arrival state request) contents) fault)) := by
  rw [candidatesFor]
  cases found : service.cache.get? (Signature.ofRequest request) with
  | some candidates => exact .of_ok _ (by simp)
  | none =>
    have reads : Closes (readBuffer surroundings.system request.filePath) (Foreseen request)
        (BufferFault surroundings.system request.filePath) :=
      (closes_readBuffer _ _).widen fun _ ⟨reason, same⟩ => same ▸ .unreadable reason
    have runs (contents : String)
        (read : readBuffer surroundings.system request.filePath = .ok contents) :
        Closes (introspected surroundings service) (Foreseen request)
          (ToolFault surroundings service
            (service.commandFor (service.arrival state request) contents)) :=
      (closes_introspected (heeds contents read) service).widen
        fun _ ⟨cause, same⟩ => same ▸ .introspection cause
    exact (reads.bind runs).congr (by simp)

/-- The answer to an inquiry from its candidates, if it has a signature. -/
def answerTo (surroundings : Surroundings) (service : Service) (state : Project.State)
    (inquiry : Inquiry) : Except Failure (List Item) :=
  ((Signature.requestOf inquiry).mapError Failure.fault).bind fun request =>
    (candidatesFor surroundings service request).bind (service.answer · request state)

/-- An inquiry that comes while no call on its signature works is answered so. -/
theorem ask_eq {service : Service} (guarded : service.Guarded) (numbered : service.Numbered)
    (surroundings : Surroundings) (state : Project.State) (inquiry : Inquiry)
    (free : ∀ other ∈ service.calls, other.signature = Signature.ofRequest inquiry.request →
      ¬ other.Works) :
    (ask surroundings service (some state) inquiry).1 =
      answerTo surroundings service state inquiry := by
  unfold ask answerTo
  dsimp only
  obtain made | ⟨fault, faulty⟩ := requestOf_eq_or_faulty inquiry
  · rw [made]
    exact complete_eq guarded numbered surroundings state inquiry.request free
  · rw [faulty.requestOf_eq]
    rfl

/-- The answer is refused, or ends with the faults of the inquiry. -/
theorem closes_answerTo {surroundings : Surroundings} {service : Service} {state : Project.State}
    {inquiry : Inquiry}
    (heeds : ∀ contents, readBuffer surroundings.system inquiry.request.filePath = .ok contents →
      surroundings.Heeds
        (service.commandFor (service.arrival state inquiry.request) contents)) :
    Closes (answerTo surroundings service state inquiry) (Foreseen inquiry.request)
      (Uncaught surroundings service state inquiry) := by
  have answers := (closes_candidatesFor heeds).bind fun candidates _ =>
    closes_answer service candidates inquiry.request state
  rw [answerTo]
  obtain made | ⟨fault, faulty⟩ := requestOf_eq_or_faulty inquiry
  · rw [made]
    refine answers.congr fun fault => ?_
    constructor
    · rintro (⟨missed, faulty | ⟨contents, read, faulty⟩⟩ | ⟨candidates, known, fails⟩)
      · exact .buffer made missed faulty
      · exact .tool made missed read faulty
      · exact .filtering made known fails
    · rintro (faulty | ⟨_, missed, faulty⟩ | ⟨_, missed, read, faulty⟩ | ⟨_, known, fails⟩)
      · exact absurd (made.symm.trans faulty.requestOf_eq) nofun
      · exact .inl ⟨missed, .inl faulty⟩
      · exact .inl ⟨missed, .inr ⟨_, read, faulty⟩⟩
      · exact .inr ⟨_, known, fails⟩
  · have unmade := faulty.requestOf_eq
    rw [unmade]
    refine .of_fault fun other => ⟨?_, fun same => same ▸ .signature faulty⟩
    rintro (also | ⟨made, _, _⟩ | ⟨made, _, _, _⟩ | ⟨made, _, _⟩)
    · exact Except.error.inj (also.requestOf_eq.symm.trans unmade)
    all_goals exact absurd (made.symm.trans unmade) nofun

/-- An inquiry, with the project in some state and no call at work on its signature, is always taken
to its end, among any files and whatever the tool does. It is answered from its candidates. It is
refused only as unreadable, as an introspection that failed, or as empty. It ends with a fault
exactly if the signature, the buffer, the tool or the pipeline has one; and the pipeline has none,
unless its parts have no length or its workers were sent home. -/
theorem complete_closes {settings : Settings} {overrides : Overrides} {service : Service}
    (reachable : Reachable (create settings overrides) service) (surroundings : Surroundings)
    (state : Project.State) (inquiry : Inquiry)
    (free : ∀ other ∈ service.calls, other.signature = Signature.ofRequest inquiry.request →
      ¬ other.Works)
    (heeds : ∀ contents, readBuffer surroundings.system inquiry.request.filePath = .ok contents →
      surroundings.Heeds
        (service.commandFor (service.arrival state inquiry.request) contents)) :
    (ask surroundings service (some state) inquiry).1 =
        answerTo surroundings service state inquiry ∧
      Closes (ask surroundings service (some state) inquiry).1 (Foreseen inquiry.request)
        (Uncaught surroundings service state inquiry) ∧
      (∀ candidates fault,
        service.pipeline.apply candidates inquiry.request state.moduleName = .error fault →
        (service.pipeline.options.partLength = 0 ∧ fault = .emptyPart) ∨
          (service.pipeline.pool = .closed ∧ fault = .poolClosed)) := by
  have answered := ask_eq reachable.guarded reachable.numbered surroundings state inquiry free
  refine ⟨answered, ?_, fun _ _ => Filter.Pipeline.apply_eq_error⟩
  rw [answered]
  exact closes_answerTo heeds

/-- A buffer that holds NUL and a directory that cannot be entered, and a tool that cannot be
started with NUL on its command line. -/
def unkindSurroundings : Surroundings :=
  ⟨⟨⟨[(["a"], .file [0]), (["b"], .barred .permission)]⟩, [], "", []⟩, [.refuses .nulInPath], []⟩

/-- An inquiry about an offset of a buffer. -/
def plainInquiry (filePath : String) (byteOffset : Nat) : Inquiry :=
  ⟨filePath, byteOffset, "", "", .thisClass, ""⟩

/-- An inquiry about the start of a buffer has a signature if its path has bytes. -/
theorem requestOf_plainInquiry {filePath : String}
    (sound : (Text.Points.ofString filePath).unencodable? (fun _ => false) = none) :
    Signature.requestOf (plainInquiry filePath 0) = .ok (plainInquiry filePath 0).request := by
  have positive (digits : Nat) : 0 < Nat.pow 10 digits := Nat.pow_pos (by decide)
  obtain made | ⟨fault, offset | ⟨_, halves⟩ | ⟨_, _, halves⟩⟩ :=
    requestOf_eq_or_faulty (plainInquiry filePath 0)
  · exact made
  · exact absurd offset (Nat.not_le.mpr (positive Number.digitLimit))
  · exact absurd (halves.symm.trans sound) nofun
  · exact absurd halves nofun

/-- An offset of too many digits has no signature. -/
theorem overlong_plainInquiry {filePath : String} {offset : Nat}
    (long : Nat.pow 10 Number.digitLimit ≤ offset) :
    SignatureFault (plainInquiry filePath offset) .overlongInteger :=
  .offset long

/-- A buffer that holds NUL, a buffer below a directory that cannot be entered, and an offset of too
many digits end with a fault. -/
theorem complete_closes_unkind :
    (ask unkindSurroundings (create .standard {}) (some default) (plainInquiry "/a" 0)).1 =
        .error (.fault .nulInPath) ∧
      (ask unkindSurroundings (create .standard {}) (some default) (plainInquiry "/b/c" 0)).1 =
        .error (.fault (.system (.atPath 13 "Permission denied" "/b/c"))) ∧
      (ask unkindSurroundings (create .standard {}) (some default)
        (plainInquiry "/b/c" (Nat.pow 10 Number.digitLimit))).1 =
        .error (.fault .overlongInteger) := by
  have read : readBuffer unkindSurroundings.system "/a" = .ok "\x00" :=
    Outcome.eq_ok_of_toOption (by decide +kernel)
  have barred : unkindSurroundings.system.find true "/b/c" = .error (.refused .permission) :=
    Outcome.eq_error_of_cause? (by decide +kernel)
  have nul : ∃ argument ∈ (create .standard {}).commandFor
      ((create .standard {}).arrival default (plainInquiry "/a" 0).request) "\x00",
      Files.System.hasNul argument = true :=
    ⟨"\x00", by simp [commandFor, Introspection.command], by decide⟩
  have heeds (inquiry : Inquiry) (contents : String) :
      unkindSurroundings.Heeds ((create .standard {}).commandFor
        ((create .standard {}).arrival default inquiry.request) contents) :=
    fun _ => rfl
  have closes (inquiry : Inquiry) :=
    (complete_closes .start unkindSurroundings default inquiry (by simp [create])
      fun contents _ => heeds inquiry contents).2.1
  refine ⟨?_, ?_, ?_⟩
  · exact ((closes _).fault_iff _).mpr (.tool (requestOf_plainInquiry (by decide)) rfl read
      ⟨by decide, .inl ⟨rfl, nul⟩⟩)
  · exact ((closes _).fault_iff _).mpr (.buffer (requestOf_plainInquiry (by decide)) rfl
      ⟨by decide, .inl ⟨_, barred, by decide, rfl⟩⟩)
  · exact ((closes _).fault_iff _).mpr (.signature (overlong_plainInquiry (Nat.le_refl _)))

end CompletionServer.Service
