import AcdpControlPlane.Common.Trace
import AcdpControlPlane.Ingest.Process
import AcdpControlPlane.Receipt.Severity

/-!
# Retention and the audits

`purge` of `src/retention/data-retention.service.ts` deletes the events that are older than a time to
live. Two sweeps read the same table: the receipt audit looks for publishes without a verdict
(`findUnauditedPublishes`), the revocation audit for revocations without a fact (`findCandidates`), both
inside a lookback window.
-/

namespace AcdpControlPlane

open List Throwing Program

/-! ## Times in the past -/

/-- The integer part of a number, toward zero. -/
def truncate (x : ℚ) : Int := if 0 ≤ x then ⌊x⌋ else ⌈x⌉

theorem floor_le_truncate (x : ℚ) : ⌊x⌋ ≤ truncate x := by
  unfold truncate
  split
  · exact le_rfl
  · exact Int.floor_le_ceil x

theorem truncate_le_ceil (x : ℚ) : truncate x ≤ ⌈x⌉ := by
  unfold truncate
  split
  · exact Int.floor_le_ceil x
  · exact le_rfl

theorem truncate_intCast (t : Int) : truncate t = t := by
  unfold truncate
  rw [Int.floor_intCast, Int.ceil_intCast, ite_self]

/-- The text `new Date(x).toISOString()`. -/
def isoOf (x : ℚ) : Except JsError String :=
  if -(JsDate.MAX_TIME : ℚ) ≤ x ∧ x ≤ JsDate.MAX_TIME then .ok (JsDate.toISOString (truncate x))
  else .error ⟨"Invalid time value"⟩

theorem inRange_truncate {x : ℚ} (h : -(JsDate.MAX_TIME : ℚ) ≤ x ∧ x ≤ JsDate.MAX_TIME) :
    JsDate.InRange (truncate x) := by
  constructor
  · refine le_trans (Int.le_floor.mpr ?_) (floor_le_truncate x)
    exact h.1
  · exact le_trans (truncate_le_ceil x) (Int.ceil_le.mpr h.2)

/-- The text of the time that lies `ms` before `nowMs`. -/
def isoAgo (nowMs : Int) (ms : ℚ) : Except JsError String := isoOf (nowMs - ms)

def instantAgo (pg : Timestamptz) (nowMs : Int) (ms : ℚ) : Except JsError Int :=
  isoAgo nowMs ms >>= pg.read

theorem floor_sub_le_truncate (nowMs : Int) (ms : ℚ) : nowMs - ⌈ms⌉ ≤ truncate (nowMs - ms) := by
  refine le_trans (Int.le_floor.mpr ?_) (floor_le_truncate _)
  push_cast
  have := Int.le_ceil ms
  linarith

theorem truncate_sub_le_ceil (nowMs : Int) (ms : ℚ) : truncate (nowMs - ms) ≤ nowMs - ⌊ms⌋ := by
  refine le_trans (truncate_le_ceil _) (Int.ceil_le.mpr ?_)
  push_cast
  have := Int.floor_le ms
  linarith

section Database

variable {pg : Timestamptz} {otherDates : String → Option Int}

theorem instantAgo_spec (hp : pg.KeepsMillis otherDates) {nowMs u : Int} {ms : ℚ}
    (h : instantAgo pg nowMs ms = .ok u) : 1000 * (nowMs - ⌈ms⌉) ≤ u ∧ u ≤ 1000 * (nowMs - ⌊ms⌋) := by
  obtain ⟨text, ht, hr⟩ := bind_eq_ok.mp h
  unfold isoAgo isoOf at ht
  split at ht
  · next hrn =>
    cases ht
    obtain rfl := hp.kept _ _ (inRange_truncate hrn) hr
    have hl := floor_sub_le_truncate nowMs ms
    have hh := truncate_sub_le_ceil nowMs ms
    constructor <;> omega
  · cases ht

theorem instantAgo_intCast (hp : pg.KeepsMillis otherDates) {nowMs ms : Int}
    (her : CommonEra (nowMs - ms)) : instantAgo pg nowMs ms = .ok (1000 * (nowMs - ms)) := by
  have hc : (nowMs : ℚ) - ms = ((nowMs - ms : Int) : ℚ) := by push_cast; rfl
  have hr := her.inRange
  have ht : isoAgo nowMs ms = .ok (JsDate.toISOString (nowMs - ms)) := by
    unfold isoAgo isoOf
    rw [hc, truncate_intCast, if_pos]
    constructor
    · exact_mod_cast hr.1
    · exact_mod_cast hr.2
  unfold instantAgo
  rw [ht]
  exact hp.read_toISOString her

end Database

/-! ## The tables -/

/-- A row of `context_events`: what the processor inserted, and the columns that the database adds. -/
structure StoredEvent where
  id : String
  row : NewContextEvent
  eventTs : Int
  createdAt : Int

def StoredEvent.key (event : StoredEvent) : String × String := event.row.key

abbrev StoredEvents : Type := KeyedTable StoredEvent.key

/-- The events, the ids of the events with a verdict, and the tenants and contexts with a fact. -/
structure RetentionDb where
  contextEvents : StoredEvents
  receiptAudits : List String
  keyRevocations : List (String × String)

def RetentionDb.empty : RetentionDb := ⟨.empty _, [], []⟩

structure RetentionConfig where
  dataRetentionTtlDays : ℚ
  receiptAuditLookbackHours : ℚ
  keyRevocationLookbackHours : ℚ

namespace RetentionConfig

variable (cfg : RetentionConfig)

def ttlMs : ℚ := cfg.dataRetentionTtlDays * 24 * 60 * 60 * 1000

def receiptLookbackMs : ℚ := cfg.receiptAuditLookbackHours * 60 * 60 * 1000

def revocationLookbackMs : ℚ := cfg.keyRevocationLookbackHours * 60 * 60 * 1000

def default : RetentionConfig where
  dataRetentionTtlDays := 30
  receiptAuditLookbackHours := 24
  keyRevocationLookbackHours := 720

end RetentionConfig

/-! ## What the sweeps select -/

/-- The first rows of a query, in its order, among those that pass its test. The test is given the
instant that the database reads. -/
def selectEvents (pg : Timestamptz) (test : Int → StoredEvent → Bool)
    (order : StoredEvent → StoredEvent → Bool) (events : StoredEvents) (sinceIso : String)
    (limit : ℕ) : Except JsError (List StoredEvent) := do
  let since ← pg.read sinceIso
  return ((events.rows.filter (test since)).insertionSort (order · ·)).take limit

section Selection

variable (cfg : RetentionConfig) (env : ProcessorEnv) (db : RetentionDb)

def isUnauditedPublish (since : Int) (event : StoredEvent) : Bool :=
  event.row.eventType = ACDP_EVENT_CONTEXT_PUBLISHED ∧ since < event.createdAt ∧
    event.id ∉ db.receiptAudits

def findUnauditedPublishes : String → ℕ → Except JsError (List StoredEvent) :=
  selectEvents env.pg (isUnauditedPublish db) (fun a b => a.createdAt ≤ b.createdAt) db.contextEvents

def isRevocationEvent (row : NewContextEvent) : Bool :=
  (row.contextType.map env.columns.text).any isRevocationContextType

-- the join is on the context and the tenant; a context that is null joins nothing
def isUnprovenRevocation (since : Int) (event : StoredEvent) : Bool :=
  isRevocationEvent env event.row ∧ since < event.createdAt ∧
    ¬∃ fact ∈ db.keyRevocations,
      event.row.ctxId.map env.columns.text = some fact.2 ∧ fact.1 = event.row.tenantId

def RetentionDb.findCandidates : String → ℕ → Except JsError (List StoredEvent) :=
  selectEvents env.pg (isUnprovenRevocation env db) (fun a b => b.createdAt ≤ a.createdAt)
    db.contextEvents

/-- What a sweep that starts at `nowMs` asks for. -/
def receiptSweepEvents (nowMs : Int) (limit : ℕ) : Except JsError (List StoredEvent) := do
  let since ← isoAgo nowMs cfg.receiptLookbackMs
  findUnauditedPublishes env db since limit

def revocationSweepEvents (nowMs : Int) (limit : ℕ) : Except JsError (List StoredEvent) := do
  let since ← isoAgo nowMs cfg.revocationLookbackMs
  RetentionDb.findCandidates env db since limit

/-- One of the sweeps would select the event, with batches that are large enough. -/
def Selectable (nowMs : Int) (event : StoredEvent) : Prop :=
  ∃ limit events, event ∈ events ∧
    (receiptSweepEvents cfg env db nowMs limit = .ok events ∨
      revocationSweepEvents cfg env db nowMs limit = .ok events)

end Selection

section Query

variable {pg : Timestamptz} {test : Int → StoredEvent → Bool}
  {order : StoredEvent → StoredEvent → Bool} {events : StoredEvents} {nowMs : Int} {ms : ℚ}
  {limit : ℕ}

theorem selectEvents_isoAgo {since : Int} (hs : instantAgo pg nowMs ms = .ok since) :
    (isoAgo nowMs ms >>= fun text => selectEvents pg test order events text limit) =
      .ok (((events.rows.filter (test since)).insertionSort (order · ·)).take limit) := by
  obtain ⟨text, ht, hr⟩ := bind_eq_ok.mp hs
  exact bind_eq_ok.mpr ⟨text, ht, bind_eq_ok.mpr ⟨since, hr, rfl⟩⟩

theorem of_mem_selectEvents {found : List StoredEvent} {event : StoredEvent}
    (h : (isoAgo nowMs ms >>= fun text => selectEvents pg test order events text limit) = .ok found)
    (hev : event ∈ found) : ∃ since, instantAgo pg nowMs ms = .ok since ∧ test since event := by
  obtain ⟨text, ht, hf⟩ := bind_eq_ok.mp h
  obtain ⟨since, hr, hre⟩ := bind_eq_ok.mp hf
  cases hre
  refine ⟨since, bind_eq_ok.mpr ⟨text, ht, hr⟩, ?_⟩
  have hfi := (mem_insertionSort _).mp (mem_of_mem_take hev)
  exact (mem_filter.mp hfi).2

end Query

/-! ## The purge -/

structure PurgeCounts where
  events : ℕ
  runs : ℕ
  deliveries : ℕ
  cosignatures : ℕ
deriving DecidableEq, Repr

/-- What a purge meets outside the table of events. -/
structure PurgeCall where
  acquired : Except JsError Bool
  nowMs : Int
  runs : Except JsError ℕ
  deliveries : Except JsError ℕ
  fault : Fault
  cosignatures : Except JsError ℕ
  unlocked : Except JsError Unit

/-- Delete the events before an instant, by the time that was stated for them. -/
def deleteBefore (pg : Timestamptz) (cutoffIso : String) (events : StoredEvents) :
    Except JsError ℕ × StoredEvents :=
  match pg.read cutoffIso with
  | .error e => (.error e, events)
  | .ok cutoff =>
    (.ok (events.rows.countP fun event => event.eventTs < cutoff),
      events.filter fun event => ¬event.eventTs < cutoff)

section Purge

variable (cfg : RetentionConfig) (pg : Timestamptz) (call : PurgeCall)

def purgeAll : Statements StoredEvents PurgeCounts := do
  let cutoffIso ← MonadExcept.ofExcept (isoAgo call.nowMs cfg.ttlMs)
  let runs ← MonadExcept.ofExcept call.runs
  let deliveries ← MonadExcept.ofExcept call.deliveries
  let events ← statement (fun _ => call.fault) (deleteBefore pg cutoffIso)
  let cosignatures ← MonadExcept.ofExcept call.cosignatures
  return { events, runs, deliveries, cosignatures }

/-- Delete everything older than the time to live. -/
def purge : Statements StoredEvents PurgeCounts := do
  let acquired ← MonadExcept.ofExcept call.acquired
  if acquired then
    tryFinally (purgeAll cfg pg call) (MonadExcept.ofExcept call.unlocked)
  else return { events := 0, runs := 0, deliveries := 0, cosignatures := 0 }

/-- No event is added, and one that is missing is older than the cutoff. -/
def Purges (events events' : StoredEvents) : Prop :=
  events'.rows ⊆ events.rows ∧
    ∀ event ∈ events.rows, event ∉ events'.rows →
      ∃ cutoff, instantAgo pg call.nowMs cfg.ttlMs = .ok cutoff ∧ event.eventTs < cutoff

variable {cfg pg call}

theorem Purges.refl (events : StoredEvents) : Purges cfg pg call events events :=
  ⟨Subset.refl _, fun _ hev hm => absurd hev hm⟩

theorem Purges.trans {events events' events'' : StoredEvents} (h : Purges cfg pg call events events')
    (h' : Purges cfg pg call events' events'') : Purges cfg pg call events events'' := by
  refine ⟨fun _ hev => h.1 (h'.1 hev), ?_⟩
  intro event hev hm
  by_cases hs : event ∈ events'.rows
  · exact h'.2 event hs hm
  · exact h.2 event hev hs

theorem purges_deleteBefore {cutoffIso : String} (hc : isoAgo call.nowMs cfg.ttlMs = .ok cutoffIso)
    (events : StoredEvents) : Purges cfg pg call events (deleteBefore pg cutoffIso events).2 := by
  unfold deleteBefore
  cases hr : pg.read cutoffIso with
  | error e => exact Purges.refl events
  | ok cutoff =>
    refine ⟨filter_subset_self events.rows, ?_⟩
    intro event hev hm
    refine ⟨cutoff, bind_eq_ok.mpr ⟨cutoffIso, hc, hr⟩, ?_⟩
    by_contra hl
    exact hm (mem_filter.mpr ⟨hev, decide_eq_true hl⟩)

theorem keeps_purge :
    Program.Keeps (fun s s' => Purges cfg pg call s.tables s'.tables) (purge cfg pg call) := by
  have hr : ∀ s : DbSession StoredEvents, Purges cfg pg call s.tables s.tables :=
    fun s => Purges.refl s.tables
  have ht : ∀ s t u : DbSession StoredEvents, Purges cfg pg call s.tables t.tables →
      Purges cfg pg call t.tables u.tables → Purges cfg pg call s.tables u.tables :=
    fun _ _ _ => Purges.trans
  -- only the third of the statements writes the table
  have ha : Keeps (fun s s' => Purges cfg pg call s.tables s'.tables)
      (purgeAll cfg pg call) := by
    refine keeps_ofExcept_bind hr fun cutoffIso hc => ?_
    refine keeps_ofExcept_bind hr fun runs _ => ?_
    refine keeps_ofExcept_bind hr fun deliveries _ => ?_
    refine Keeps.bind ht ?_ fun events => ?_
    · exact keeps_statement Purges.refl (purges_deleteBefore hc)
    · refine keeps_ofExcept_bind hr fun cosignatures _ => ?_
      exact keeps_pure hr _
  refine keeps_ofExcept_bind hr fun acquired _ => ?_
  cases acquired with
  | false => exact keeps_pure hr _
  | true => exact Keeps.cleanup ht ha (keeps_ofExcept hr _)

theorem after_purge (ha : call.acquired = .ok true) {runs deliveries : ℕ}
    (hru : call.runs = .ok runs) (hde : call.deliveries = .ok deliveries)
    (hf : call.fault = .none) {cutoff : Int}
    (hc : instantAgo pg call.nowMs cfg.ttlMs = .ok cutoff) (s : DbSession StoredEvents) :
    (Program.after (purge cfg pg call) s).tables =
      s.tables.filter fun event => ¬event.eventTs < cutoff := by
  obtain ⟨text, ht, hr⟩ := bind_eq_ok.mp hc
  have hd : statement (fun _ => call.fault) (deleteBefore pg text) s =
      .ok (s.tables.rows.countP fun event => event.eventTs < cutoff)
        ⟨s.tables.filter fun event => ¬event.eventTs < cutoff, s.calls + 1⟩ := by
    simp only [statement, hf, deleteBefore, hr]
  unfold purge
  rw [ha, after_ofExcept_ok_bind, if_pos rfl, after_tryFinally,
    after_ofExcept]
  unfold purgeAll
  rw [ht, hru, hde, after_ofExcept_ok_bind, after_ofExcept_ok_bind,
    after_ofExcept_ok_bind, after_bind_of_ok hd]
  -- what comes after the delete may still fail
  cases call.cosignatures <;> rfl

end Purge

/-! ## Runs -/

structure Arrival where
  call : ProcessCall
  nowMs : Int
  createdAt : Int
  id : String
  fault : Fault

/-- What can happen to the tables. Verdicts and facts may be recorded by any instance. -/
inductive RetentionAction where
  | ingest (arrival : Arrival)
  | recordVerdict (eventId : String)
  | recordFact (tenantId ctxId : String)
  | purge (call : PurgeCall)

section Runs

variable (cfg : RetentionConfig) (env : ProcessorEnv)

/-- Insert an event that arrives, unless its key or its id is taken. -/
def insertStored (row : NewContextEvent) (arrival : Arrival) (events : StoredEvents) :
    StoredEvents :=
  match env.pg.read row.eventTs with
  | .error _ => events
  | .ok eventTs =>
    if arrival.id ∈ events.rows.map StoredEvent.id then events
    else events.insert ⟨arrival.id, row, eventTs, arrival.createdAt⟩

/-- The first statement of the processor. The statements after it do not write these tables. -/
def ingestStored (arrival : Arrival) (events : StoredEvents) : StoredEvents :=
  match newContextEvent env arrival.call (JsDate.toISOString arrival.nowMs) with
  | .error _ => events
  | .ok row =>
    match arrival.fault with
    | .lost => events
    | .none | .unacknowledged => insertStored env row arrival events

namespace RetentionDb

def purgedEvents (db : RetentionDb) (call : PurgeCall) : StoredEvents :=
  (Program.after (purge cfg env.pg call) ⟨db.contextEvents, 0⟩).tables

def next (db : RetentionDb) : RetentionAction → RetentionDb
  | .ingest arrival => { db with contextEvents := ingestStored env arrival db.contextEvents }
  | .recordVerdict eventId => { db with receiptAudits := eventId :: db.receiptAudits }
  | .recordFact tenantId ctxId =>
    { db with keyRevocations := (tenantId, ctxId) :: db.keyRevocations }
  | .purge call => { db with contextEvents := db.purgedEvents cfg env call }

end RetentionDb

/-- The stated time is before the arrival by no more than the time to live, less the window in which
the event is looked for. -/
def InTime (row : NewContextEvent) (eventTs createdAt : Int) : Prop :=
  (row.eventType = ACDP_EVENT_CONTEXT_PUBLISHED →
    createdAt - eventTs ≤ 1000 * (⌊cfg.ttlMs⌋ - ⌈cfg.receiptLookbackMs⌉)) ∧
  (isRevocationEvent env row →
    createdAt - eventTs ≤ 1000 * (⌊cfg.ttlMs⌋ - ⌈cfg.revocationLookbackMs⌉))

def NotBackdated (arrival : Arrival) : Prop :=
  ∀ row eventTs, newContextEvent env arrival.call (JsDate.toISOString arrival.nowMs) = .ok row →
    env.pg.read row.eventTs = .ok eventTs → InTime cfg env row eventTs arrival.createdAt

variable {cfg env}

theorem mem_ingestStored {arrival : Arrival} {events : StoredEvents} {event : StoredEvent}
    (h : event ∈ (ingestStored env arrival events).rows) :
    event ∈ events.rows ∨
      (newContextEvent env arrival.call (JsDate.toISOString arrival.nowMs) = .ok event.row ∧
        env.pg.read event.row.eventTs = .ok event.eventTs ∧ event.createdAt = arrival.createdAt) := by
  unfold ingestStored at h
  cases hr : newContextEvent env arrival.call (JsDate.toISOString arrival.nowMs) with
  | error e =>
    rw [hr] at h
    exact Or.inl h
  | ok row =>
    rw [hr] at h
    have hi : event ∈ (insertStored env row arrival events).rows → event ∈ events.rows ∨
        (Except.ok row = Except.ok (ε := JsError) event.row ∧
          env.pg.read event.row.eventTs = .ok event.eventTs ∧
          event.createdAt = arrival.createdAt) := by
      intro h
      unfold insertStored at h
      split at h
      · exact Or.inl h
      · next eventTs hre =>
        split at h
        · exact Or.inl h
        · rcases KeyedTable.mem_insert.mp h with h | ⟨-, rfl⟩
          · exact Or.inl h
          · exact Or.inr ⟨rfl, hre, rfl⟩
    dsimp only at h
    split at h
    · exact Or.inl h
    · exact hi h
    · exact hi h

theorem map_row_insertStored {row : NewContextEvent} {arrival : Arrival} {events : StoredEvents}
    {rows : KeyedTable NewContextEvent.key} (hr : events.rows.map StoredEvent.row = rows.rows)
    (hf : arrival.id ∉ events.rows.map StoredEvent.id) :
    (insertStored env row arrival events).rows.map StoredEvent.row =
      (createEvent env.pg row rows).2.rows := by
  have hk : events.rows.map StoredEvent.key = rows.rows.map NewContextEvent.key := by
    rw [← hr, map_map]
    rfl
  unfold insertStored createEvent
  cases env.pg.read row.eventTs with
  | error e => exact hr
  | ok eventTs =>
    dsimp only
    rw [if_neg hf]
    by_cases ht : row.key ∈ rows.rows.map NewContextEvent.key
    · rw [if_pos ht, KeyedTable.insert, dif_pos (hk ▸ ht)]
      exact hr
    · rw [if_neg ht, KeyedTable.rows_insert ht, KeyedTable.rows_insert (hk ▸ ht),
        map_append, hr]
      rfl

theorem inTime_of_run {hi : List (RetentionAction × RetentionDb)} {db : RetentionDb}
    (hru : TracedRun (fun action db db' => db.next cfg env action = db') .empty hi db)
    (ha : ∀ arrival before, (RetentionAction.ingest arrival, before) ∈ hi →
      NotBackdated cfg env arrival) :
    ∀ event ∈ db.contextEvents.rows, InTime cfg env event.row event.eventTs event.createdAt := by
  induction hru with
  | start => exact fun _ hev => absurd hev not_mem_nil
  | @step hi db db' action run next ih =>
    subst next
    have hb := ih fun arrival before h => ha arrival before (mem_cons_of_mem _ h)
    intro event hev
    cases action with
    | ingest arrival =>
      rcases mem_ingestStored hev with ho | ⟨hro, hr, hc⟩
      · exact hb event ho
      · rw [hc]
        exact ha arrival db mem_cons_self event.row event.eventTs hro hr
    | recordVerdict eventId => exact hb event hev
    | recordFact tenantId ctxId => exact hb event hev
    | purge call => exact hb event ((keeps_purge _).1 hev)

end Runs

/-! ## A publish that revokes a key -/

def sampleRetentionEnv : ProcessorEnv := { sampleProcessor with pg := samplePg }

def sampleStatement (statedMs : Int) : ProcessCall where
  payload := .obj [("type", .str ACDP_EVENT_CONTEXT_PUBLISHED), ("ctx_id", .str "c1"),
    ("context_type", .str REVOCATION_CONTEXT_TYPE), ("created_at", .str (JsDate.toISOString statedMs))]
  runIdOverride := none
  tenantId := "default"
  originHeader := none
  eventId := some (.str "e1")

def sampleStatementRow (statedMs : Int) : NewContextEvent where
  tenantId := "default"
  eventType := ACDP_EVENT_CONTEXT_PUBLISHED
  eventTs := JsDate.toISOString statedMs
  runId := none
  ctxId := some (.str "c1")
  lineageId := none
  agentId := ""
  contextType := some (.str REVOCATION_CONTEXT_TYPE)
  visibility := none
  version := none
  derivedFrom := .arr []
  registryAuthority := ""
  scenarioId := none
  fingerprint := "evt:e1"
  keyFingerprint := none
  receiptPresent := false
  rawPayload := (sampleStatement statedMs).payload

theorem newContextEvent_sampleStatement (statedMs : Int) (now : String) :
    newContextEvent sampleRetentionEnv (sampleStatement statedMs) now =
      .ok (sampleStatementRow statedMs) := rfl

def sampleArrivalOf (statedMs : Int) : Arrival where
  call := sampleStatement statedMs
  nowMs := 2678400000
  createdAt := 2678400000000
  id := "id1"
  fault := .none

def sampleStored (statedMs : Int) : StoredEvent :=
  ⟨"id1", sampleStatementRow statedMs, 1000 * statedMs, 2678400000000⟩

def sampleIngested (statedMs : Int) : RetentionDb :=
  RetentionDb.empty.next .default sampleRetentionEnv (.ingest (sampleArrivalOf statedMs))

theorem rows_sampleIngested {statedMs : Int} (h : JsDate.InRange statedMs) :
    (sampleIngested statedMs).contextEvents.rows = [sampleStored statedMs] := by
  have hr : sampleRetentionEnv.pg.read (sampleStatementRow statedMs).eventTs =
      .ok (1000 * statedMs) := samplePg_read h
  show (ingestStored _ _ _).rows = _
  unfold ingestStored
  rw [show (sampleArrivalOf statedMs).call = sampleStatement statedMs from rfl,
    newContextEvent_sampleStatement]
  show (insertStored _ _ _ _).rows = _
  unfold insertStored
  rw [hr]
  rfl

theorem ttlMs_default : RetentionConfig.default.ttlMs = (2592000000 : Int) := by
  norm_num [RetentionConfig.ttlMs, RetentionConfig.default]

theorem receiptLookbackMs_default : RetentionConfig.default.receiptLookbackMs = (86400000 : Int) := by
  norm_num [RetentionConfig.receiptLookbackMs, RetentionConfig.default]

theorem revocationLookbackMs_default :
    RetentionConfig.default.revocationLookbackMs = (2592000000 : Int) := by
  norm_num [RetentionConfig.revocationLookbackMs, RetentionConfig.default]

def samplePurge (nowMs : Int) : PurgeCall := ⟨.ok true, nowMs, .ok 0, .ok 0, .none, .ok 0, .ok ()⟩

theorem purgedEvents_samplePurge (db : RetentionDb) {nowMs : Int}
    (her : CommonEra (nowMs - 2592000000)) :
    db.purgedEvents .default sampleRetentionEnv (samplePurge nowMs) =
      db.contextEvents.filter fun event => ¬event.eventTs < 1000 * (nowMs - 2592000000) := by
  apply after_purge rfl rfl rfl rfl
  rw [ttlMs_default]
  exact instantAgo_intCast samplePg_keepsMillis her

/-! ## Backdated events -/

/-- **What is not backdated is not deleted before it is audited.** No purge of the run deletes an event
that a sweep would select at that time. -/
theorem purge_spares_selectable {cfg : RetentionConfig} {env : ProcessorEnv} {otherDates : String → Option Int}
    (hpg : env.pg.KeepsMillis otherDates) {history : List (RetentionAction × RetentionDb)}
    {db : RetentionDb}
    (hrun : TracedRun (fun action db db' => db.next cfg env action = db') .empty history db)
    (harrivals : ∀ arrival before, (RetentionAction.ingest arrival, before) ∈ history →
      NotBackdated cfg env arrival)
    {call : PurgeCall} {before : RetentionDb} (hpurge : (RetentionAction.purge call, before) ∈ history)
    {event : StoredEvent} (hevent : event ∈ before.contextEvents.rows)
    (hdeleted : event ∉ (before.next cfg env (.purge call)).contextEvents.rows) :
    ¬Selectable cfg env before call.nowMs event := by
  obtain ⟨later, earlier, rfl⟩ := append_of_mem hpurge
  have hpr := hrun.at_entry.1
  have hi := inTime_of_run hpr
    (fun arrival db h => harrivals arrival db (mem_append_right _ (mem_cons_of_mem _ h)))
    event hevent
  obtain ⟨cutoff, hc, hbe⟩ := (keeps_purge _).2 event hevent hdeleted
  have hl := (instantAgo_spec hpg hc).2
  rintro ⟨limit, events, hev, hs | hs⟩
  · obtain ⟨since, hsi, hp⟩ := of_mem_selectEvents hs hev
    have hp := of_decide_eq_true hp
    have hb := hi.1 hp.1
    have hea := (instantAgo_spec hpg hsi).1
    omega
  · obtain ⟨since, hsi, hr⟩ := of_mem_selectEvents hs hev
    have hr := of_decide_eq_true hr
    have hb := hi.2 hr.1
    have hea := (instantAgo_spec hpg hsi).1
    omega

/-- The defaults leave no slack for revocations. One that is dated to its arrival is kept for its
whole window, and then it is deleted. -/
theorem purge_spares_selectable_prompt :
    sampleStored 2678400000 ∈ (sampleIngested 2678400000).contextEvents.rows ∧
      sampleStored 2678400000 ∉ ((sampleIngested 2678400000).next .default sampleRetentionEnv
        (.purge (samplePurge 5356800000))).contextEvents.rows ∧
      ¬Selectable .default sampleRetentionEnv (sampleIngested 2678400000) 5356800000
        (sampleStored 2678400000) := by
  have hs : JsDate.InRange 2678400000 := by decide
  have hev : sampleStored 2678400000 ∈ (sampleIngested 2678400000).contextEvents.rows := by
    exact mem_singleton_self _
  have hd : sampleStored 2678400000 ∉ ((sampleIngested 2678400000).next .default
      sampleRetentionEnv (.purge (samplePurge 5356800000))).contextEvents.rows := by
    show _ ∉ (RetentionDb.purgedEvents _ _ _ _).rows
    rw [purgedEvents_samplePurge _ ⟨by decide, by decide⟩, KeyedTable.mem_filter]
    exact fun h => absurd h.2 (by decide)
  have ha : NotBackdated .default sampleRetentionEnv (sampleArrivalOf 2678400000) := by
    intro row eventTs hro hr
    cases (newContextEvent_sampleStatement _ _).symm.trans hro
    cases (samplePg_read hs).symm.trans hr
    constructor
    · rw [ttlMs_default, receiptLookbackMs_default, Int.floor_intCast, Int.ceil_intCast]
      decide
    · rw [ttlMs_default, revocationLookbackMs_default, Int.floor_intCast, Int.ceil_intCast]
      decide
  refine ⟨hev, hd, ?_⟩
  have hru : TracedRun (fun action db db' => db.next .default sampleRetentionEnv action = db') .empty
      [(.purge (samplePurge 5356800000), sampleIngested 2678400000),
        (.ingest (sampleArrivalOf 2678400000), .empty)]
      ((sampleIngested 2678400000).next .default sampleRetentionEnv
        (.purge (samplePurge 5356800000))) := (TracedRun.start.step rfl).step rfl
  refine purge_spares_selectable samplePg_keepsMillis hru ?_ mem_cons_self hev hd
  intro arrival before h
  simp only [mem_cons, Prod.mk.injEq, reduceCtorEq, false_and, not_mem_nil, or_false,
    RetentionAction.ingest.injEq, false_or] at h
  rw [h.1]
  exact ha

/-- The same event, stated to be 31 days old. A second after its arrival both sweeps would select it, and
a purge deletes it. -/
theorem purge_deletes_backdated :
    RetentionConfig.default.receiptLookbackMs ≤ RetentionConfig.default.ttlMs ∧
      RetentionConfig.default.revocationLookbackMs ≤ RetentionConfig.default.ttlMs ∧
      sampleStored 0 ∈ (sampleIngested 0).contextEvents.rows ∧
      sampleStored 0 ∉ ((sampleIngested 0).next .default sampleRetentionEnv
        (.purge (samplePurge 2678401000))).contextEvents.rows ∧
      receiptSweepEvents .default sampleRetentionEnv (sampleIngested 0) 2678401000 1 =
        .ok [sampleStored 0] ∧
      revocationSweepEvents .default sampleRetentionEnv (sampleIngested 0) 2678401000 1 =
        .ok [sampleStored 0] := by
  have hr := rows_sampleIngested (show JsDate.InRange 0 by decide)
  refine ⟨?_, ?_, ?_, ?_, ?_, ?_⟩
  · rw [receiptLookbackMs_default, ttlMs_default]
    exact_mod_cast (by decide : (86400000 : Int) ≤ 2592000000)
  · rw [revocationLookbackMs_default, ttlMs_default]
  · exact mem_singleton_self _
  · show _ ∉ (RetentionDb.purgedEvents _ _ _ _).rows
    rw [purgedEvents_samplePurge _ ⟨by decide, by decide⟩, KeyedTable.mem_filter]
    exact fun h => absurd h.2 (by decide)
  · have hs : instantAgo samplePg 2678401000 RetentionConfig.default.receiptLookbackMs =
        .ok (1000 * (2678401000 - 86400000)) := by
      rw [receiptLookbackMs_default]
      exact instantAgo_intCast samplePg_keepsMillis ⟨by decide, by decide⟩
    refine (selectEvents_isoAgo hs).trans ?_
    rfl
  · have hs : instantAgo samplePg 2678401000 RetentionConfig.default.revocationLookbackMs =
        .ok (1000 * (2678401000 - 2592000000)) := by
      rw [revocationLookbackMs_default]
      exact instantAgo_intCast samplePg_keepsMillis ⟨by decide, by decide⟩
    refine (selectEvents_isoAgo hs).trans ?_
    rfl

end AcdpControlPlane
