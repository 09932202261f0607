import AcdpControlPlane.Revocation.Audit

/-!
# The revocation sweep

One pass of `RevocationAuditService.sweep` over the tables of
`src/storage/key-revocation.repository.ts`. The candidates are the recent revocation events without
a fact; each one that verifies is recorded, and may queue its lineage; then the queued lineages are
walked and their members recorded. A fact is never deleted and never rewritten: the first one under
a tenant and a context id stays. The re-audit of receipts that ends a pass reads the facts and
writes other tables.
-/

namespace AcdpControlPlane

/-! ## Tables -/

structure KeyRevocation where
  tenantId : String
  ctxId : String
  revokedKeyFingerprint : String
  compromisedSince : String
  revokedKeyController : String
  publisher : String
  trustClass : TrustClass
  revokedKeyId : Option String
  reason : Option String
  lineageId : String
  originAuthority : String
  contextType : String
deriving DecidableEq, Repr

def KeyRevocation.key (fact : KeyRevocation) : String × String := (fact.tenantId, fact.ctxId)

structure FactTable where
  rows : List KeyRevocation
  nodup : (rows.map KeyRevocation.key).Nodup

namespace FactTable

def empty : FactTable := ⟨[], List.nodup_nil⟩

local instance instLawfulBEqKey : LawfulBEq (String × String) := Prod.instLawfulBEq

def record (table : FactTable) (fact : KeyRevocation) : FactTable :=
  if htaken : fact.key ∈ table.rows.map KeyRevocation.key then table
  else
    ⟨table.rows ++ [fact], by
      rw [List.map_append]
      exact table.nodup.append (List.nodup_singleton _)
        (List.disjoint_singleton.mpr htaken)⟩

def countByLineage (table : FactTable) (tenantId lineageId : String) : ℕ :=
  table.rows.countP fun fact => fact.tenantId = tenantId ∧ fact.lineageId = lineageId

end FactTable

/-- The tables of the sweep. A lineage cursor is the time of the last complete walk of a lineage of
a tenant from a registry. -/
structure RevocationDb where
  events : List ContextEvent
  facts : FactTable
  lineageCursors : String → String → String → Option Int

namespace RevocationDb

def empty : RevocationDb := ⟨[], .empty, fun _ _ _ => none⟩

/-- Whether the lineage was fully walked from the registry within the window. -/
def findFreshLineageCursor (db : RevocationDb) (tenantId lineageId registryAuthority : String)
    (nowMs ttlMs : Int) : Bool :=
  match db.lineageCursors tenantId lineageId registryAuthority with
  | some walkedAt => nowMs - walkedAt < ttlMs
  | none => false

def recordLineageWalk (db : RevocationDb) (tenantId lineageId registryAuthority : String)
    (walkedAt : Int) : RevocationDb :=
  { db with
    lineageCursors := fun t l a =>
      if t = tenantId ∧ l = lineageId ∧ a = registryAuthority then some walkedAt
      else db.lineageCursors t l a }

/-- The revocation events newer than `since` that have no fact. -/
def pending (db : RevocationDb) (since : Int) : List ContextEvent :=
  db.events.filter fun ev =>
    (ev.contextType.any isRevocationContextType) ∧ since < ev.createdAt ∧
      ¬db.facts.rows.any fun fact => ev.ctxId = some fact.ctxId ∧ fact.tenantId = ev.tenantId

def findCandidates (db : RevocationDb) (since : Int) (limit : ℕ) : List ContextEvent :=
  ((db.pending since).insertionSort fun a b => b.createdAt ≤ a.createdAt).take limit

end RevocationDb

/-! ## A pass -/

structure RevocationConfig where
  keyRevocationLookbackHours : ℕ
  receiptAuditBatchSize : ℕ
  keyRevocationLineageCursorTtlHours : ℕ

def RevocationConfig.lineageCursorTtlMs (cfg : RevocationConfig) : Int :=
  cfg.keyRevocationLineageCursorTtlHours * 60 * 60 * 1000

def MAX_LINEAGE_WALKS : ℕ := 100

structure RevocationEnv where
  acquired : Bool
  nowMs : Int
  event : ContextEvent → Outside
  freshNowMs : ContextEvent → Int
  queueBaseUrl : ContextEvent → Except JsError (Option String)
  refuses : KeyRevocation → Option JsError
  walk : LineageWalkParams → Outside
  walkedAt : LineageWalkParams → Int

/-- The lineages to walk, under their keys and in the order in which they were queued. -/
abbrev LineageQueue : Type := List (String × LineageWalkParams)

def queueKey (tenantId lineageId registryAuthority : String) : String :=
  tenantId ++ "::" ++ lineageId ++ "::" ++ registryAuthority

/-- The lineage of a verified event: what the body says, else what the event says. -/
def lineageOf (body : Json) (ev : ContextEvent) : String :=
  ((Json.strOf (body.member "lineage_id")).or ev.lineageId).getD ""

def eventFact (ev : ContextEvent) (revocation : ParsedRevocation) (body : Json) :
    KeyRevocation where
  tenantId := ev.tenantId
  ctxId := ev.ctxId.getD ""
  revokedKeyFingerprint := revocation.revokedKeyFingerprint
  compromisedSince := revocation.compromisedSince
  revokedKeyController := revocation.revokedKeyController
  publisher := revocation.publisher
  trustClass := revocation.trustClass
  revokedKeyId := revocation.revokedKeyId
  reason := revocation.reason
  lineageId := lineageOf body ev
  originAuthority := (Json.strOf (body.member "origin_registry")).getD ev.registryAuthority
  contextType := ev.contextType.getD ""

/-- The fact of a lineage member, under the context id that the member claims. -/
def memberFact (params : LineageWalkParams) (member : LineageMember) : KeyRevocation where
  tenantId := params.tenantId
  ctxId := member.ctxId
  revokedKeyFingerprint := member.revocation.revokedKeyFingerprint
  compromisedSince := member.revocation.compromisedSince
  revokedKeyController := member.revocation.revokedKeyController
  publisher := member.revocation.publisher
  trustClass := member.revocation.trustClass
  revokedKeyId := member.revocation.revokedKeyId
  reason := member.revocation.reason
  lineageId := params.lineageId
  originAuthority := member.originAuthority.getD params.registryAuthority
  contextType := member.contextType

section Pass

variable (sdk : RevocationSdk) (cfg : RevocationConfig) (env : RevocationEnv)

def lookbackSince : Int := env.nowMs - cfg.keyRevocationLookbackHours * 60 * 60 * 1000

def recordFact (fact : KeyRevocation) (db : RevocationDb) : Except JsError Unit × RevocationDb :=
  match env.refuses fact with
  | some err => (.error err, db)
  | none => (.ok (), { db with facts := db.facts.record fact })

def queueLineage (ev : ContextEvent) (lineageId : String) (queue : LineageQueue) :
    Except JsError LineageQueue :=
  let key := queueKey ev.tenantId lineageId ev.registryAuthority
  if queue.any (·.1 = key) then .ok queue
  else
    (env.queueBaseUrl ev).map fun baseUrl? =>
      match truthy baseUrl? with
      | none => queue
      | some baseUrl =>
        queue ++ [(key, ⟨lineageId, ev.registryAuthority, baseUrl, ev.tenantId, ev.ctxId.getD ""⟩)]

/-- The lineage of a recorded event need not be walked: it has none, or facts of it were known
before and it was walked lately. -/
def skipsLineage (ev : ContextEvent) (lineageId : String) (priorFactCount : ℕ)
    (db : RevocationDb) : Bool :=
  lineageId = "" ∨ (0 < priorFactCount ∧ db.findFreshLineageCursor ev.tenantId lineageId
    ev.registryAuthority (env.freshNowMs ev) cfg.lineageCursorTtlMs)

def auditCandidate (ev : ContextEvent) (queue : LineageQueue) (db : RevocationDb) :
    Except JsError LineageQueue × RevocationDb :=
  match verifyEvent sdk (env.event ev) ev with
  | .unverified _ _ _ => (.ok queue, db)
  | .verified revocation body =>
    let lineageId := lineageOf body ev
    let priorFactCount :=
      if lineageId ≠ "" then db.facts.countByLineage ev.tenantId lineageId else 0
    match recordFact env (eventFact ev revocation body) db with
    | (.error err, db) => (.error err, db)
    | (.ok (), db) =>
      if skipsLineage cfg env ev lineageId priorFactCount db then (.ok queue, db)
      else (queueLineage env ev lineageId queue, db)

/-- The candidates, one after another. A throw ends the pass. -/
def auditCandidates : List ContextEvent → LineageQueue → RevocationDb →
    Except JsError LineageQueue × RevocationDb
  | [], queue, db => (.ok queue, db)
  | ev :: rest, queue, db =>
    match auditCandidate sdk cfg env ev queue db with
    | (.error err, db) => (.error err, db)
    | (.ok queue, db) => auditCandidates rest queue db

def recordMembers (params : LineageWalkParams) :
    List LineageMember → RevocationDb → Except JsError Unit × RevocationDb
  | [], db => (.ok (), db)
  | member :: rest, db =>
    match recordFact env (memberFact params member) db with
    | (.error err, db) => (.error err, db)
    | (.ok (), db) => recordMembers params rest db

/-- Walk one lineage and persist its members. The cursor is written only after a complete walk. -/
def walkAndPersistLineage (params : LineageWalkParams) (db : RevocationDb) :
    Except JsError Unit × RevocationDb :=
  match walkRevocationLineage (verifyRevocationBody sdk (env.walk params)) params
      (env.walk params).get with
  | .error err => (.error err, db)
  | .ok (.failed _ _ _) => (.ok (), db)
  | .ok (.ok members _) =>
    match recordMembers env params members db with
    | (.error err, db) => (.error err, db)
    | (.ok (), db) =>
      (.ok (), db.recordLineageWalk params.tenantId params.lineageId params.registryAuthority
        (env.walkedAt params))

/-- The queued lineages, one after another. A throw ends the pass. -/
def walkLineages : List LineageWalkParams → RevocationDb → Except JsError Unit × RevocationDb
  | [], db => (.ok (), db)
  | params :: rest, db =>
    match walkAndPersistLineage sdk env params db with
    | (.error err, db) => (.error err, db)
    | (.ok (), db) => walkLineages rest db

def candidates (db : RevocationDb) : List ContextEvent :=
  db.findCandidates (lookbackSince cfg env) cfg.receiptAuditBatchSize

def auditPass (db : RevocationDb) : Except JsError LineageQueue × RevocationDb :=
  auditCandidates sdk cfg env (candidates cfg env db) [] db

/-- One pass: the number of candidates. More lineages than the bound are not walked at all. -/
def revocationSweep (db : RevocationDb) : Except JsError ℕ × RevocationDb :=
  if !env.acquired then (.ok 0, db)
  else
    match auditPass sdk cfg env db with
    | (.error err, audited) => (.error err, audited)
    | (.ok queue, audited) =>
      if MAX_LINEAGE_WALKS < queue.length then (.ok (candidates cfg env db).length, audited)
      else
        match walkLineages sdk env (queue.map Prod.snd) audited with
        | (.error err, walked) => (.error err, walked)
        | (.ok (), walked) => (.ok (candidates cfg env db).length, walked)

end Pass

end AcdpControlPlane
