import AcdpControlPlane.Storage.Enrollment
import AcdpControlPlane.Storage.Statement
import AcdpControlPlane.Storage.Table

/-!
# The tables of the ingest pipeline

The events as they came, and what is projected from them: runs, lineage edges, the lifecycle of
contexts, agents and registries, with the writes of the repositories in `src/storage`. The columns that
hold the clock of a write (`first_seen`, `last_seen`, `started_at`, `updated_at`) are left out, and so
are the columns of a run that ingest does not write.
-/

namespace AcdpControlPlane

/-! ## Rows -/

/-- An event as the processor inserts it. Members of the payload are passed as they are. -/
structure NewContextEvent where
  tenantId : String
  eventType : String
  eventTs : String
  runId : Option Json
  ctxId : Option Json
  lineageId : Option Json
  agentId : String
  contextType : Option Json
  visibility : Option Json
  version : Option Json
  derivedFrom : Json
  registryAuthority : String
  scenarioId : Option Json
  fingerprint : String
  keyFingerprint : Option String
  receiptPresent : Bool
  rawPayload : Json

def NewContextEvent.key (event : NewContextEvent) : String × String :=
  (event.tenantId, event.fingerprint)

inductive RunStatus where
  | running
  | completed
  | failed
  | cancelled
deriving DecidableEq, Repr

structure RunRow where
  tenantId : String
  runId : String
  scenarioId : String
  status : RunStatus
  contextsCount : ℕ
  registries : List String
deriving DecidableEq, Repr

def RunRow.key (run : RunRow) : String × String := (run.tenantId, run.runId)

structure LineageEdge where
  tenantId : String
  fromCtxId : String
  toCtxId : String
  runId : Option String
deriving DecidableEq, Repr

def LineageEdge.key (edge : LineageEdge) : String × String × String :=
  (edge.tenantId, edge.fromCtxId, edge.toCtxId)

structure ContextLifecycle where
  tenantId : String
  ctxId : String
  lineageId : Option String
  retracted : Bool
  retractedAt : Option Int
  republishedAt : Option Int
  actor : Option String
  reason : Option String
  lastEventAt : Int
deriving DecidableEq, Repr

def ContextLifecycle.key (row : ContextLifecycle) : String × String := (row.tenantId, row.ctxId)

structure AgentRow where
  tenantId : String
  agentDid : String
  registryAuthority : Option String
  contextCount : ℕ
deriving DecidableEq, Repr

def AgentRow.key (agent : AgentRow) : String × String := (agent.tenantId, agent.agentDid)

structure RegistryRow where
  tenantId : String
  authority : String
  baseUrl : Option String
  eventCount : ℕ
deriving DecidableEq, Repr

def RegistryRow.key (registry : RegistryRow) : String × String :=
  (registry.tenantId, registry.authority)

/-! ## Tables -/

structure IngestTables where
  contextEvents : KeyedTable NewContextEvent.key
  runs : KeyedTable RunRow.key
  lineageEdges : KeyedTable LineageEdge.key
  contextLifecycle : KeyedTable ContextLifecycle.key
  agents : KeyedTable AgentRow.key
  registries : KeyedTable RegistryRow.key

namespace IngestTables

variable {α : Type}

def empty : IngestTables := ⟨.empty _, .empty _, .empty _, .empty _, .empty _, .empty _⟩

/-! A statement of a repository is run on its own table. -/

def onContextEvents (f : KeyedTable NewContextEvent.key → α × KeyedTable NewContextEvent.key)
    (tables : IngestTables) : α × IngestTables :=
  ((f tables.contextEvents).1, { tables with contextEvents := (f tables.contextEvents).2 })

def onRuns (f : KeyedTable RunRow.key → α × KeyedTable RunRow.key) (tables : IngestTables) :
    α × IngestTables :=
  ((f tables.runs).1, { tables with runs := (f tables.runs).2 })

def onLineageEdges (f : KeyedTable LineageEdge.key → α × KeyedTable LineageEdge.key)
    (tables : IngestTables) : α × IngestTables :=
  ((f tables.lineageEdges).1, { tables with lineageEdges := (f tables.lineageEdges).2 })

def onContextLifecycle
    (f : KeyedTable ContextLifecycle.key → α × KeyedTable ContextLifecycle.key)
    (tables : IngestTables) : α × IngestTables :=
  ((f tables.contextLifecycle).1, { tables with contextLifecycle := (f tables.contextLifecycle).2 })

def onAgents (f : KeyedTable AgentRow.key → α × KeyedTable AgentRow.key) (tables : IngestTables) :
    α × IngestTables :=
  ((f tables.agents).1, { tables with agents := (f tables.agents).2 })

def onRegistries (f : KeyedTable RegistryRow.key → α × KeyedTable RegistryRow.key)
    (tables : IngestTables) : α × IngestTables :=
  ((f tables.registries).1, { tables with registries := (f tables.registries).2 })

end IngestTables

/-! ## Statements -/

section Repositories

variable (columns : TextColumns) (pg : Timestamptz)

/-- Insert an event; nothing is returned when its key is taken. -/
def createEvent (input : NewContextEvent) (events : KeyedTable NewContextEvent.key) :
    Except JsError (Option NewContextEvent) × KeyedTable NewContextEvent.key :=
  match pg.read input.eventTs with
  | .error e => (.error e, events)
  | .ok _ =>
    if input.key ∈ events.rows.map NewContextEvent.key then (.ok none, events)
    else (.ok (some input), events.insert input)

def selectRun (tenantId runId : String) (runs : KeyedTable RunRow.key) :
    Except JsError (Option RunRow) × KeyedTable RunRow.key :=
  (.ok (runs.find? (tenantId, runId)), runs)

def insertRun (run : RunRow) (runs : KeyedTable RunRow.key) :
    Except JsError Unit × KeyedTable RunRow.key :=
  if run.key ∈ runs.rows.map RunRow.key then
    (.error ⟨"duplicate key value violates unique constraint \"runs_pkey\""⟩, runs)
  else (.ok (), runs.insert run)

/-- Count an event of a run, and write the registries that were computed for it. -/
def updateRun (tenantId runId : String) (registries : List String)
    (runs : KeyedTable RunRow.key) : Except JsError Unit × KeyedTable RunRow.key :=
  (.ok (), runs.modify
    (fun run =>
      if run.key = (tenantId, runId) then
        { run with contextsCount := run.contextsCount + 1, registries }
      else run)
    (by
      intro run
      split <;> rfl))

def addRegistry (registries : List String) (registryAuthority : String) : List String :=
  if registryAuthority = "" ∨ registryAuthority ∈ registries then registries
  else registries ++ [registryAuthority]

/-- Insert an edge, unless there is one. The source may be any value of the payload. -/
def upsertEdge (tenantId : String) (fromCtxId toCtxId : Json) (runId : Option Json)
    (edges : KeyedTable LineageEdge.key) : Except JsError Unit × KeyedTable LineageEdge.key :=
  match fromCtxId with
  | .null =>
    (.error ⟨"null value in column \"from_ctx_id\" violates not-null constraint"⟩, edges)
  | fromCtxId =>
    (.ok (), edges.insert
      ⟨tenantId, columns.text fromCtxId, columns.text toCtxId, runId.map columns.text⟩)

structure LifecycleTransitionInput where
  ctxId : String
  tenantId : String
  lineageId : Option String
  retracted : Bool
  eventAt : Int
  actor : Option String
  reason : Option String
deriving DecidableEq, Repr

namespace LifecycleTransitionInput

variable (input : LifecycleTransitionInput)

def newRow : ContextLifecycle where
  tenantId := input.tenantId
  ctxId := input.ctxId
  lineageId := input.lineageId
  retracted := input.retracted
  retractedAt := if input.retracted then some input.eventAt else none
  republishedAt := if input.retracted then none else some input.eventAt
  actor := input.actor
  reason := input.reason
  lastEventAt := input.eventAt

/-- The row of a context that had one: it only moves to events that are not older. -/
def moveRow (row : ContextLifecycle) : ContextLifecycle :=
  if row.lastEventAt ≤ input.eventAt then
    { row with
      retracted := input.retracted
      retractedAt := if input.retracted then some input.eventAt else row.retractedAt
      republishedAt := if input.retracted then row.republishedAt else some input.eventAt
      lineageId := input.lineageId.or row.lineageId
      actor := input.actor
      reason := input.reason
      lastEventAt := input.eventAt }
  else row

@[simp] theorem key_moveRow (row : ContextLifecycle) : (input.moveRow row).key = row.key := by
  unfold moveRow
  split <;> rfl

end LifecycleTransitionInput

/-- The statement of `applyTransition`, on a transition that was read. -/
def applyTransition (input : LifecycleTransitionInput)
    (rows : KeyedTable ContextLifecycle.key) : KeyedTable ContextLifecycle.key :=
  rows.upsert input.newRow input.moveRow input.key_moveRow

/-- `applyTransition`, with the time of the event as a text. -/
def writeTransition (ctxId : String) (tenantId : String) (lineageId : Option String)
    (retracted : Bool) (eventAt : String) (actor reason : Option String)
    (rows : KeyedTable ContextLifecycle.key) :
    Except JsError Unit × KeyedTable ContextLifecycle.key :=
  match pg.read eventAt with
  | .error e => (.error e, rows)
  | .ok t => (.ok (), applyTransition ⟨ctxId, tenantId, lineageId, retracted, t, actor, reason⟩ rows)

def upsertAgent (agentDid registryAuthority tenantId : String) (agents : KeyedTable AgentRow.key) :
    Except JsError Unit × KeyedTable AgentRow.key :=
  (.ok (), agents.upsert ⟨tenantId, agentDid, truthy (some registryAuthority), 1⟩
    (fun agent =>
      { agent with
        contextCount := agent.contextCount + 1
        registryAuthority := (truthy (some registryAuthority)).or agent.registryAuthority })
    (fun _ => rfl))

def upsertRegistry (authority : String) (baseUrl : Option String) (tenantId : String)
    (registries : KeyedTable RegistryRow.key) : Except JsError Unit × KeyedTable RegistryRow.key :=
  (.ok (), registries.upsert ⟨tenantId, authority, baseUrl, 1⟩
    (fun registry =>
      { registry with
        eventCount := registry.eventCount + 1
        baseUrl := (truthy baseUrl).or registry.baseUrl })
    (fun _ => rfl))

end Repositories

/-! ## What the statements write -/

section Written

variable {pg : Timestamptz}

theorem createEvent_cases (input : NewContextEvent) (events : KeyedTable NewContextEvent.key) :
    (∃ e, createEvent pg input events = (.error e, events)) ∨
    (input.key ∈ events.rows.map NewContextEvent.key ∧
      createEvent pg input events = (.ok none, events)) ∨
    (input.key ∉ events.rows.map NewContextEvent.key ∧
      createEvent pg input events = (.ok (some input), events.insert input)) := by
  unfold createEvent
  cases pg.read input.eventTs with
  | error e => exact Or.inl ⟨e, rfl⟩
  | ok _ =>
    by_cases ht : input.key ∈ events.rows.map NewContextEvent.key
    · exact Or.inr (Or.inl ⟨ht, if_pos ht⟩)
    · exact Or.inr (Or.inr ⟨ht, if_neg ht⟩)

theorem find?_applyTransition (input : LifecycleTransitionInput)
    (rows : KeyedTable ContextLifecycle.key) (tenantId ctxId : String) :
    (applyTransition input rows).find? (tenantId, ctxId) =
      if tenantId = input.tenantId ∧ ctxId = input.ctxId then
        some (((rows.find? (tenantId, ctxId)).map input.moveRow).getD input.newRow)
      else rows.find? (tenantId, ctxId) := by
  unfold applyTransition
  rw [KeyedTable.find?_upsert]
  simp [ContextLifecycle.key, LifecycleTransitionInput.newRow]

theorem find?_writeTransition_of_ne {ctxId tenantId : String} {lineageId : Option String}
    {retracted : Bool} {eventAt : String} {actor reason : Option String}
    {rows : KeyedTable ContextLifecycle.key} {tenantId' ctxId' : String}
    (hn : ¬ (tenantId' = tenantId ∧ ctxId' = ctxId)) :
    (writeTransition pg ctxId tenantId lineageId retracted eventAt actor reason rows).2.find?
      (tenantId', ctxId') = rows.find? (tenantId', ctxId') := by
  unfold writeTransition
  cases pg.read eventAt with
  | error e => rfl
  | ok t =>
    rw [find?_applyTransition]
    exact if_neg hn

end Written

end AcdpControlPlane
