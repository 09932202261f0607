import AcdpControlPlane.Ingest.Admission
import AcdpControlPlane.Ingest.Store

/-!
# The event processor

`process` of `src/processor/event-processor.service.ts`: an event is inserted, and if it was not there
yet, it is projected into the tables, one statement after the other and without a transaction. What
follows the statements (metrics, the streams, the outbound webhooks) is left out; it writes none of
these tables.
-/

namespace AcdpControlPlane

open Program

/-- The functions of the platform, and the columns of the database. -/
structure ProcessorEnv where
  columns : TextColumns
  pg : Timestamptz
  sha256 : String → String
  isPositive : Json → Except JsError Bool

/-! ## The row of an event -/

/-- The text `String(v ?? absent)`. -/
def nullishText (v : Option Json) (absent : String) : Except JsError String :=
  match Json.nullish v with
  | none => .ok absent
  | some v => v.toJsString

def ACDP_EVENT_CONTEXT_PUBLISHED : String := "context_published"

def ACDP_EVENT_CONTEXT_RETRACTED : String := "context_retracted"

def ACDP_EVENT_CONTEXT_REPUBLISHED : String := "context_republished"

section Row

variable (env : ProcessorEnv)

/-- The dedup key: the event id of the registry, or else a hash of some members. -/
def dedupKey (payload : Json) (runId eventId : Option Json) : Except JsError String :=
  if Json.isTruthy eventId then do
    let id ← nullishText eventId ""
    return "evt:" ++ id
  else do
    let parts ← [payload.member "type", payload.member "ctx_id", payload.member "agent_id",
      payload.member "created_at", runId, payload.member "version"].mapM (nullishText · "")
    return String.ofList ((env.sha256 (String.intercalate ":" parts)).toList.take 32)

def extractScenarioId (payload : Json) : Option Json :=
  (Json.nullish ((payload.member "metadata").bind (·.member "scenario_id"))).or
    (payload.member "scenario_id")

/-- The row that is inserted for an event that arrives at `now`. -/
def newContextEvent (call : ProcessCall) (now : String) : Except JsError NewContextEvent := do
  let payload := call.payload
  let eventType ← nullishText (payload.member "type") "unknown"
  let agentId ← nullishText (payload.member "agent_id") ""
  let registryAuthority ← nullishText (payload.member "registry_authority") ""
  -- publishes carry `created_at`, the other events `at`
  let eventTs ←
    nullishText ((Json.nullish (payload.member "created_at")).or (payload.member "at")) now
  let runId := (Json.nullish call.runIdOverride).or (payload.member "run_id")
  let fingerprint ← dedupKey env payload runId call.eventId
  return {
    tenantId := call.tenantId
    eventType
    eventTs
    runId := Json.nullish runId
    ctxId := Json.nullish (payload.member "ctx_id")
    lineageId := Json.nullish (payload.member "lineage_id")
    agentId
    contextType := Json.nullish (payload.member "context_type")
    visibility := Json.nullish (payload.member "visibility")
    version := Json.nullish (payload.member "version")
    derivedFrom := (Json.nullish (payload.member "derived_from")).getD (.arr [])
    registryAuthority
    scenarioId := Json.nullish (extractScenarioId payload)
    fingerprint
    keyFingerprint := Json.strOf (payload.member "key_fingerprint")
    receiptPresent := Json.isObjectLike (payload.member "registry_receipt")
    rawPayload := payload }

structure RowOf (call : ProcessCall) (now : String) (row : NewContextEvent) : Prop where
  tenant : row.tenantId = call.tenantId
  rawPayload : row.rawPayload = call.payload
  eventType : nullishText (call.payload.member "type") "unknown" = .ok row.eventType
  authority : nullishText (call.payload.member "registry_authority") "" = .ok row.registryAuthority
  eventTs : nullishText
    ((Json.nullish (call.payload.member "created_at")).or (call.payload.member "at")) now =
      .ok row.eventTs
  ctxId : row.ctxId = Json.nullish (call.payload.member "ctx_id")

variable {env} in
theorem rowOf_newContextEvent {call : ProcessCall} {now : String} {row : NewContextEvent}
    (h : newContextEvent env call now = .ok row) : RowOf call now row := by
  obtain ⟨eventType, ht, h⟩ := Throwing.bind_eq_ok.mp h
  obtain ⟨agentId, -, h⟩ := Throwing.bind_eq_ok.mp h
  obtain ⟨authority, ha, h⟩ := Throwing.bind_eq_ok.mp h
  obtain ⟨eventTs, hts, h⟩ := Throwing.bind_eq_ok.mp h
  obtain ⟨fingerprint, -, h⟩ := Throwing.bind_eq_ok.mp h
  cases h
  exact ⟨rfl, rfl, ht, ha, hts, rfl⟩

end Row

/-! ## Projections -/

section Project

variable (env : ProcessorEnv) (faults : ℕ → Fault)

def upsertFromEvent (runId scenarioId registryAuthority tenantId : String) :
    Statements IngestTables Unit := do
  let existing ← statement faults (IngestTables.onRuns (selectRun tenantId runId))
  match existing with
  | none =>
    statement faults (IngestTables.onRuns (insertRun
      { tenantId, runId, scenarioId, status := .running, contextsCount := 1
        registries := addRegistry [] registryAuthority }))
  | some current =>
    statement faults (IngestTables.onRuns (updateRun tenantId runId
      (addRegistry current.registries registryAuthority)))

def projectRun (event : NewContextEvent) : Statements IngestTables Unit :=
  match event.runId with
  | some runId =>
    if Json.isTruthy (some runId) then
      upsertFromEvent faults (env.columns.text runId)
        ((event.scenarioId.map env.columns.text).getD "unknown") event.registryAuthority
        event.tenantId
    else pure ()
  | none => pure ()

/-- The test `derivedFrom.length > 0`. -/
def hasElements : Json → Except JsError Bool
  | .str s => .ok (s != "")
  | .arr elements => .ok (!elements.isEmpty)
  | .obj o =>
    match Json.get o "length" with
    | some length => env.isPositive length
    | none => .ok false
  | _ => .ok false

/-- What `for (const fromCtxId of derivedFrom)` runs over. -/
def iterate : Json → Except JsError (List Json)
  | .str s => .ok (s.toList.map fun c => .str (String.ofList [c]))
  | .arr elements => .ok elements
  | _ => .error ⟨"derivedFrom is not iterable"⟩

def projectLineage (event : NewContextEvent) : Statements IngestTables Unit :=
  match event.ctxId with
  | some ctxId =>
    if event.eventType = ACDP_EVENT_CONTEXT_PUBLISHED ∧ Json.isTruthy (some ctxId) then do
      let nonempty ← MonadExcept.ofExcept (hasElements env event.derivedFrom)
      if nonempty then do
        let sources ← MonadExcept.ofExcept (iterate event.derivedFrom)
        sources.forM fun fromCtxId =>
          statement faults (IngestTables.onLineageEdges
            (upsertEdge env.columns event.tenantId fromCtxId ctxId event.runId))
      else pure ()
    else pure ()
  | none => pure ()

def NewContextEvent.isTransition (event : NewContextEvent) : Bool :=
  event.eventType = ACDP_EVENT_CONTEXT_RETRACTED ||
    event.eventType = ACDP_EVENT_CONTEXT_REPUBLISHED

def projectLifecycle (event : NewContextEvent) : Statements IngestTables Unit :=
  match event.ctxId with
  | some ctxId =>
    if event.isTransition ∧ Json.isTruthy (some ctxId) then
      statement faults (IngestTables.onContextLifecycle
        (writeTransition env.pg (env.columns.text ctxId) event.tenantId
          (event.lineageId.map env.columns.text)
          (event.eventType = ACDP_EVENT_CONTEXT_RETRACTED) event.eventTs
          (Json.strOf (event.rawPayload.member "actor"))
          (Json.strOf (event.rawPayload.member "reason"))))
    else pure ()
  | none => pure ()

def projectAgent (event : NewContextEvent) : Statements IngestTables Unit :=
  if event.agentId ≠ "" then
    statement faults (IngestTables.onAgents
      (upsertAgent event.agentId event.registryAuthority event.tenantId))
  else pure ()

def projectRegistry (event : NewContextEvent) (originHeader : Option String) :
    Statements IngestTables Unit :=
  if event.registryAuthority ≠ "" then
    statement faults (IngestTables.onRegistries
      (upsertRegistry event.registryAuthority
        ((Json.strOf (event.rawPayload.member "registry_base_url")).or originHeader)
        event.tenantId))
  else pure ()

def project (event : NewContextEvent) (originHeader : Option String) :
    Statements IngestTables Unit := do
  projectRun env faults event
  projectLineage env faults event
  projectLifecycle env faults event
  projectAgent faults event
  projectRegistry faults event originHeader

inductive ProcessResult where
  | duplicate
  | processed
deriving DecidableEq, Repr

def EventProcessorService.process (call : ProcessCall) (now : String) :
    Statements IngestTables ProcessResult := do
  let event ← MonadExcept.ofExcept (newContextEvent env call now)
  let created ← statement faults (IngestTables.onContextEvents (createEvent env.pg event))
  match created with
  | none => return .duplicate
  | some _ => do
    project env faults event call.originHeader
    return .processed

def IngestService.handle (ingest : IngestEnv) (config : IngestConfig)
    (enrollments : EnrollmentTable) (req : IngestRequest) (now : String) (tables : IngestTables) :
    Except IngestError ProcessResult × IngestTables :=
  match acceptRequest ingest config enrollments req with
  | .error e => (.error e, tables)
  | .ok call =>
    match EventProcessorService.process env faults call now ⟨tables, 0⟩ with
    | .ok result s => (.ok result, s.tables)
    | .error e s => (.error (.js e), s.tables)

structure IngestArrival where
  req : IngestRequest
  enrollments : EnrollmentTable
  now : String

def IngestArrival.handle (ingest : IngestEnv) (config : IngestConfig) (arrival : IngestArrival)
    (tables : IngestTables) : Except IngestError ProcessResult × IngestTables :=
  IngestService.handle env faults ingest config arrival.enrollments arrival.req arrival.now tables

def noFaults : ℕ → Fault := fun _ => .none

end Project

/-! ## The exits of the processor -/

section Exits

variable {env : ProcessorEnv} {faults : ℕ → Fault} {call : ProcessCall} {now : String}
  {event : NewContextEvent} {s : DbSession IngestTables}

/-- The session after an insert that leaves these events. -/
def DbSession.withEvents (s : DbSession IngestTables)
    (events : KeyedTable NewContextEvent.key) : DbSession IngestTables :=
  ⟨{ s.tables with contextEvents := events }, s.calls + 1⟩

theorem process_of_error {e : JsError} (h : newContextEvent env call now = .error e) :
    EventProcessorService.process env faults call now s = .error e s := by
  apply bind_of_error
  rw [h]
  rfl

theorem process_eq (h : newContextEvent env call now = .ok event) :
    EventProcessorService.process env faults call now s =
      (statement faults (IngestTables.onContextEvents (createEvent env.pg event)) >>= fun created =>
        match created with
        | none => return .duplicate
        | some _ => do
          project env faults event call.originHeader
          return .processed) s := by
  apply bind_of_ok
  rw [h]
  rfl

theorem process_of_lost (h : newContextEvent env call now = .ok event) (hf : faults s.calls = .lost) :
    EventProcessorService.process env faults call now s =
      .error databaseError (s.withEvents s.tables.contextEvents) := by
  rw [process_eq h]
  apply bind_of_error
  simp only [statement, hf]
  rfl

theorem process_of_unacknowledged (h : newContextEvent env call now = .ok event)
    (hf : faults s.calls = .unacknowledged) :
    EventProcessorService.process env faults call now s =
      .error databaseError
        (s.withEvents (createEvent env.pg event s.tables.contextEvents).2) := by
  rw [process_eq h]
  apply bind_of_error
  simp only [statement, hf]
  rfl

theorem process_of_refused (h : newContextEvent env call now = .ok event)
    (hf : faults s.calls = .none) {e : JsError} (hr : env.pg.read event.eventTs = .error e) :
    EventProcessorService.process env faults call now s =
      .error e (s.withEvents s.tables.contextEvents) := by
  rw [process_eq h]
  apply bind_of_error
  simp only [statement, hf, IngestTables.onContextEvents, createEvent, hr]
  rfl

theorem process_of_taken (h : newContextEvent env call now = .ok event)
    (hf : faults s.calls = .none) {t : Int} (hr : env.pg.read event.eventTs = .ok t)
    (ht : event.key ∈ s.tables.contextEvents.rows.map NewContextEvent.key) :
    EventProcessorService.process env faults call now s =
      .ok .duplicate (s.withEvents s.tables.contextEvents) := by
  have hc : createEvent env.pg event s.tables.contextEvents =
      (.ok none, s.tables.contextEvents) := by
    simp only [createEvent, hr, if_pos ht]
  have hs :
      statement faults (IngestTables.onContextEvents (createEvent env.pg event)) s =
        .ok none (s.withEvents s.tables.contextEvents) := by
    simp only [statement, hf, IngestTables.onContextEvents, hc]
    rfl
  rw [process_eq h, bind_of_ok hs]
  rfl

theorem process_of_free (h : newContextEvent env call now = .ok event)
    (hfl : faults s.calls = .none) {t : Int} (hr : env.pg.read event.eventTs = .ok t)
    (hf : event.key ∉ s.tables.contextEvents.rows.map NewContextEvent.key) :
    EventProcessorService.process env faults call now s =
      (project env faults event call.originHeader >>= fun _ => pure ProcessResult.processed)
        (s.withEvents (s.tables.contextEvents.insert event)) := by
  have hc : createEvent env.pg event s.tables.contextEvents =
      (.ok (some event), s.tables.contextEvents.insert event) := by
    simp only [createEvent, hr, if_neg hf]
  have hs :
      statement faults (IngestTables.onContextEvents (createEvent env.pg event)) s =
        .ok (some event) (s.withEvents (s.tables.contextEvents.insert event)) := by
    simp only [statement, hfl, IngestTables.onContextEvents, hc]
    rfl
  rw [process_eq h, bind_of_ok hs]

/-! ## What a projection leaves alone -/

variable {τ α β : Type}

def SamePart (part : IngestTables → τ) (s s' : DbSession IngestTables) : Prop :=
  part s'.tables = part s.tables

theorem SamePart.refl (part : IngestTables → τ) (s : DbSession IngestTables) :
    SamePart part s s := rfl

theorem SamePart.trans (part : IngestTables → τ) (s t u : DbSession IngestTables)
    (h : SamePart part s t) (h' : SamePart part t u) : SamePart part s u := Eq.trans h' h

abbrev KeepsPart (part : IngestTables → τ) (p : Statements IngestTables α) : Prop :=
  Program.Keeps (SamePart part) p

/-- A part of the tables that no projection but that of the lifecycle writes. -/
structure IgnoresProjections (part : IngestTables → τ) : Prop where
  runs : ∀ (t : IngestTables) runs, part { t with runs := runs } = part t
  lineageEdges : ∀ (t : IngestTables) edges, part { t with lineageEdges := edges } = part t
  agents : ∀ (t : IngestTables) agents, part { t with agents := agents } = part t
  registries : ∀ (t : IngestTables) rows, part { t with registries := rows } = part t

variable {part : IngestTables → τ} {originHeader : Option String}

theorem KeepsPart.bind {p : Statements IngestTables α} {f : α → Statements IngestTables β}
    (hp : KeepsPart part p) (hf : ∀ a, KeepsPart part (f a)) : KeepsPart part (p >>= f) :=
  Keeps.bind (SamePart.trans part) hp hf

theorem keepsPart_pure (a : α) : KeepsPart part (pure a) :=
  keeps_pure (SamePart.refl part) a

theorem keepsPart_ofExcept (result : Except JsError α) : KeepsPart part (MonadExcept.ofExcept result) :=
  keeps_ofExcept (SamePart.refl part) result

theorem keepsPart_statement {f : IngestTables → Except JsError α × IngestTables}
    (hf : ∀ t, part (f t).2 = part t) : KeepsPart part (statement faults f) :=
  keeps_statement (R := fun t t' => part t' = part t) (fun _ => rfl) hf

theorem keeps_projectRun (h : IgnoresProjections part) :
    KeepsPart part (projectRun env faults event) := by
  unfold projectRun
  split
  · split
    · apply KeepsPart.bind
      · exact keepsPart_statement fun t => h.runs t _
      · intro existing
        cases existing with
        | none => exact keepsPart_statement fun t => h.runs t _
        | some current => exact keepsPart_statement fun t => h.runs t _
    · exact keepsPart_pure _
  · exact keepsPart_pure _

theorem keeps_projectLineage (h : IgnoresProjections part) :
    KeepsPart part (projectLineage env faults event) := by
  unfold projectLineage
  split
  · split
    · apply KeepsPart.bind
      · exact keepsPart_ofExcept _
      · intro nonempty
        split
        · apply KeepsPart.bind
          · exact keepsPart_ofExcept _
          · intro sources
            apply Keeps.forM (SamePart.refl part) (SamePart.trans part)
            intro fromCtxId _
            exact keepsPart_statement fun t => h.lineageEdges t _
        · exact keepsPart_pure _
    · exact keepsPart_pure _
  · exact keepsPart_pure _

theorem keeps_projectAgent (h : IgnoresProjections part) :
    KeepsPart part (projectAgent faults event) := by
  unfold projectAgent
  split
  · exact keepsPart_statement fun t => h.agents t _
  · exact keepsPart_pure _

theorem keeps_projectRegistry (h : IgnoresProjections part) :
    KeepsPart part (projectRegistry faults event originHeader) := by
  unfold projectRegistry
  split
  · exact keepsPart_statement fun t => h.registries t _
  · exact keepsPart_pure _

theorem keeps_project (h : IgnoresProjections part)
    (hl : KeepsPart part (projectLifecycle env faults event)) :
    KeepsPart part (project env faults event originHeader) :=
  (keeps_projectRun h).bind fun _ => (keeps_projectLineage h).bind fun _ =>
    hl.bind fun _ => (keeps_projectAgent h).bind fun _ => keeps_projectRegistry h

theorem keeps_process {call : ProcessCall} {now : String} (h : IgnoresProjections part)
    (hevs : ∀ (t : IngestTables) events, part { t with contextEvents := events } = part t)
    (hl : ∀ event, newContextEvent env call now = .ok event →
      KeepsPart part (projectLifecycle env faults event)) :
    KeepsPart part (EventProcessorService.process env faults call now) := by
  intro s
  cases hev : newContextEvent env call now with
  | error e =>
    rw [after_of_error (process_of_error hev)]
    rfl
  | ok event =>
    unfold after
    rw [process_eq hev]
    refine KeepsPart.bind (keepsPart_statement fun t => hevs t _) ?_ s
    intro created
    cases created with
    | none => exact keepsPart_pure _
    | some _ => exact (keeps_project h (hl event hev)).bind fun _ => keepsPart_pure _

theorem keeps_contextEvents_project :
    KeepsPart IngestTables.contextEvents (project env faults event originHeader) := by
  apply keeps_project
  · exact ⟨fun _ _ => rfl, fun _ _ => rfl, fun _ _ => rfl, fun _ _ => rfl⟩
  · unfold projectLifecycle
    split
    · split
      · exact keepsPart_statement fun t => rfl
      · exact keepsPart_pure _
    · exact keepsPart_pure _

theorem contextEvents_after_project {s : DbSession IngestTables} :
    (Program.after (project env faults event originHeader >>= fun _ =>
      pure ProcessResult.processed) s).tables.contextEvents = s.tables.contextEvents :=
  (keeps_contextEvents_project.bind fun _ => keepsPart_pure ProcessResult.processed :
    KeepsPart _ (project env faults event originHeader >>= _)) s

/-! ## The events after a delivery -/

theorem contextEvents_process_of_free {event : NewContextEvent} {t : Int}
    (hev : newContextEvent env call now = .ok event) (hfl : faults s.calls = .none)
    (hr : env.pg.read event.eventTs = .ok t)
    (hf : event.key ∉ s.tables.contextEvents.rows.map NewContextEvent.key) :
    (Program.after (EventProcessorService.process env faults call now) s).tables.contextEvents =
      s.tables.contextEvents.insert event := by
  unfold after
  rw [process_of_free hev hfl hr hf]
  exact contextEvents_after_project

theorem contextEvents_process :
    (Program.after (EventProcessorService.process env faults call now) s).tables.contextEvents =
        s.tables.contextEvents ∨
      ∃ event, newContextEvent env call now = .ok event ∧
        (Program.after (EventProcessorService.process env faults call now) s).tables.contextEvents =
          s.tables.contextEvents.insert event := by
  cases hev : newContextEvent env call now with
  | error e =>
    rw [after_of_error (process_of_error hev)]
    exact Or.inl rfl
  | ok event =>
    -- the insert is the only statement that writes the events, whatever its acknowledgement
    have hc : (createEvent env.pg event s.tables.contextEvents).2 = s.tables.contextEvents ∨
        (createEvent env.pg event s.tables.contextEvents).2 =
          s.tables.contextEvents.insert event := by
      rcases createEvent_cases event s.tables.contextEvents with ⟨e, h⟩ | ⟨-, h⟩ | ⟨-, h⟩
      · exact Or.inl (congrArg Prod.snd h)
      · exact Or.inl (congrArg Prod.snd h)
      · exact Or.inr (congrArg Prod.snd h)
    cases hf : faults s.calls with
    | lost =>
      rw [after_of_error (process_of_lost hev hf)]
      exact Or.inl rfl
    | unacknowledged =>
      rw [after_of_error (process_of_unacknowledged hev hf)]
      exact hc.imp id fun h => ⟨event, rfl, h⟩
    | none =>
      cases hr : env.pg.read event.eventTs with
      | error e =>
        rw [after_of_error (process_of_refused hev hf hr)]
        exact Or.inl rfl
      | ok t =>
        by_cases ht : event.key ∈ s.tables.contextEvents.rows.map NewContextEvent.key
        · rw [after_of_ok (process_of_taken hev hf hr ht)]
          exact Or.inl rfl
        · exact Or.inr ⟨event, rfl, contextEvents_process_of_free hev hf hr ht⟩

/-! ## Deliveries -/

variable {ingest : IngestEnv} {config : IngestConfig} {enrollments : EnrollmentTable}
  {req : IngestRequest} {tables : IngestTables}

theorem handle_of_error {e : IngestError} (h : acceptRequest ingest config enrollments req = .error e) :
    IngestService.handle env faults ingest config enrollments req now tables =
      (.error e, tables) := by
  simp only [IngestService.handle, h]

theorem handle_of_ok {call : ProcessCall} (h : acceptRequest ingest config enrollments req = .ok call) :
    (IngestService.handle env faults ingest config enrollments req now tables).2 =
      (Program.after (EventProcessorService.process env faults call now) ⟨tables, 0⟩).tables := by
  simp only [IngestService.handle, h, after]
  cases EventProcessorService.process env faults call now ⟨tables, 0⟩ <;> rfl

theorem mem_contextEvents_handle {row : NewContextEvent}
    (h : row ∈ (IngestService.handle env faults ingest config enrollments req now
      tables).2.contextEvents.rows) :
    row ∈ tables.contextEvents.rows ∨
      ∃ call, acceptRequest ingest config enrollments req = .ok call ∧
        newContextEvent env call now = .ok row := by
  cases ha : acceptRequest ingest config enrollments req with
  | error e =>
    rw [handle_of_error ha] at h
    exact Or.inl h
  | ok call =>
    rw [handle_of_ok ha] at h
    rcases contextEvents_process with hs | ⟨event, hev, hi⟩
    · rw [hs] at h
      exact Or.inl h
    · rw [hi] at h
      rcases KeyedTable.mem_insert.mp h with ho | ⟨-, rfl⟩
      · exact Or.inl ho
      · exact Or.inr ⟨call, rfl, hev⟩

end Exits

/-! ## A sample platform -/

def samplePlatform (payload : Json) : IngestEnv where
  hmacSha256 secret _ := secret
  decodeUtf8 _ := ""
  jsonParse _ := some payload

def sampleProcessor : ProcessorEnv where
  columns := ⟨fun | .str s => s | _ => "", fun _ => rfl⟩
  pg := ⟨fun _ => .ok 0, fun _ => ""⟩
  sha256 := id
  isPositive _ := .ok false

/-- A configuration with the secret `bb` and no requirement on senders. -/
def sampleIngestConfig : IngestConfig := ⟨1000, 64, "bb", false, false, []⟩

def sampleRequest (signature : String) : IngestRequest :=
  ⟨[], some signature, none, none, none, none, fun _ => .ok ()⟩

/-- A registry that is enrolled in the tenant `acme`, with its own secret. -/
def acmeEnrollment : RegistryEnrollment :=
  ⟨"acme.com", "acme", none, none, some "aa", true, "", ""⟩

/-- A second registry of this tenant, with its own secret. -/
def otherEnrollment : RegistryEnrollment :=
  ⟨"other.com", "acme", none, none, some "cc", true, "", ""⟩

def tenantEnrollments : EnrollmentTable := ⟨[acmeEnrollment, otherEnrollment], by decide⟩

end AcdpControlPlane
