import AcdpControlPlane.Ingest.Process

/-!
# Redelivery

A registry that gets an error sends its event again. The event is inserted first, and then projected, one
statement after the other and without a transaction. So a failure of the insert does no harm: nothing
was written, and the next delivery starts over. But if the insert was applied and a later statement
fails, or the acknowledgement of the insert is lost, the next delivery is a duplicate: it is answered with
success, and the rest is never projected (`projection_lost`).
-/

namespace AcdpControlPlane

open Throwing Program

/-- A delivery of an event, at a time that the database can read. -/
structure Redelivery (pg : Timestamptz) where
  now : String
  readable : ∃ t, pg.read now = .ok t
  faults : ℕ → Fault

def Redelivery.faultless {pg : Timestamptz} (delivery : Redelivery pg) : Redelivery pg :=
  { delivery with faults := noFaults }

section Deliveries

variable (env : ProcessorEnv) (call : ProcessCall)

def Redelivery.process (delivery : Redelivery env.pg) (tables : IngestTables) :
    EStateM.Result JsError (DbSession IngestTables) ProcessResult :=
  EventProcessorService.process env delivery.faults call delivery.now ⟨tables, 0⟩

def Redelivery.deliver (delivery : Redelivery env.pg) (tables : IngestTables) : IngestTables :=
  (Program.after (EventProcessorService.process env delivery.faults call delivery.now)
    ⟨tables, 0⟩).tables

def redeliver (deliveries : List (Redelivery env.pg)) (tables : IngestTables) : IngestTables :=
  deliveries.foldl (fun tables delivery => delivery.deliver env call tables) tables

def CarriesTime : Prop :=
  Json.nullish ((Json.nullish (call.payload.member "created_at")).or (call.payload.member "at")) ≠
    none

def IsTransitionCall : Prop :=
  ∃ eventType, nullishText (call.payload.member "type") "unknown" = .ok eventType ∧
    (eventType = ACDP_EVENT_CONTEXT_RETRACTED ∨ eventType = ACDP_EVENT_CONTEXT_REPUBLISHED)

end Deliveries

/-- Everything but the events: the runs, the edges, the lifecycle, the agents and the registries. -/
def IngestTables.effects (tables : IngestTables) :
    KeyedTable RunRow.key × KeyedTable LineageEdge.key × KeyedTable ContextLifecycle.key ×
      KeyedTable AgentRow.key × KeyedTable RegistryRow.key :=
  (tables.runs, tables.lineageEdges, tables.contextLifecycle, tables.agents, tables.registries)

section Times

variable {env : ProcessorEnv} {call : ProcessCall} {now : String} {event : NewContextEvent}

theorem newContextEvent_of_carriesTime (now' : String) (h : CarriesTime call) :
    newContextEvent env call now = newContextEvent env call now' := by
  have hs : ∀ v : Option Json, Json.nullish v ≠ none → nullishText v now = nullishText v now' := by
    intro v hv
    unfold nullishText
    cases ht : Json.nullish v with
    | none => exact absurd ht hv
    | some time => rfl
  unfold newContextEvent
  simp only [hs _ h]

theorem newContextEvent_of_not_carriesTime (now' : String) (h : ¬ CarriesTime call)
    (hev : newContextEvent env call now = .ok event) :
    event.eventTs = now ∧
      newContextEvent env call now' = .ok { event with eventTs := now' } := by
  have ht : Json.nullish ((Json.nullish (call.payload.member "created_at")).or
      (call.payload.member "at")) = none := by
    by_contra hne
    exact h hne
  have hn : ∀ time, nullishText ((Json.nullish (call.payload.member "created_at")).or
      (call.payload.member "at")) time = .ok time := by
    intro time
    unfold nullishText
    rw [ht]
  obtain ⟨eventType, hty, hev⟩ := bind_eq_ok.mp hev
  obtain ⟨agentId, hag, hev⟩ := bind_eq_ok.mp hev
  obtain ⟨authority, ha, hev⟩ := bind_eq_ok.mp hev
  obtain ⟨eventTs, hts, hev⟩ := bind_eq_ok.mp hev
  obtain ⟨fingerprint, hf, hev⟩ := bind_eq_ok.mp hev
  cases hev
  refine ⟨(Except.ok.inj ((hn now).symm.trans hts)).symm, ?_⟩
  -- all parts but the time are the same
  exact bind_eq_ok.mpr ⟨_, hty, bind_eq_ok.mpr ⟨_, hag,
    bind_eq_ok.mpr ⟨_, ha, bind_eq_ok.mpr ⟨_, hn now',
      bind_eq_ok.mpr ⟨_, hf, rfl⟩⟩⟩⟩⟩

theorem exists_newContextEvent (now' : String) (hev : newContextEvent env call now = .ok event) :
    ∃ event', newContextEvent env call now' = .ok event' ∧ event'.key = event.key := by
  by_cases ht : CarriesTime call
  · exact ⟨event, (newContextEvent_of_carriesTime now ht).trans hev, rfl⟩
  · exact ⟨_, (newContextEvent_of_not_carriesTime now' ht hev).2, rfl⟩

/-! ## Deliveries that change nothing -/

variable {tables : IngestTables} {delivery : Redelivery env.pg}

def Inert (env : ProcessorEnv) (call : ProcessCall) (tables : IngestTables) : Prop :=
  ∀ delivery : Redelivery env.pg, delivery.deliver env call tables = tables

theorem deliver_eq_of_process {result : EStateM.Result JsError (DbSession IngestTables) ProcessResult}
    (hp : EventProcessorService.process env delivery.faults call delivery.now ⟨tables, 0⟩ =
      result) (hr : result = .ok .duplicate (DbSession.withEvents ⟨tables, 0⟩ tables.contextEvents) ∨
      ∃ e, result = .error e (DbSession.withEvents ⟨tables, 0⟩ tables.contextEvents)) :
    delivery.deliver env call tables = tables := by
  unfold Redelivery.deliver
  rcases hr with rfl | ⟨e, rfl⟩
  · rw [after_of_ok hp]
    rfl
  · rw [after_of_error hp]
    rfl

theorem deliver_of_error {e : JsError} (h : newContextEvent env call delivery.now = .error e) :
    delivery.deliver env call tables = tables := by
  unfold Redelivery.deliver
  rw [after_of_error (process_of_error h)]

theorem deliver_of_lost (h : delivery.faults 0 = .lost) :
    delivery.deliver env call tables = tables := by
  cases hev : newContextEvent env call delivery.now with
  | error e => exact deliver_of_error hev
  | ok event => exact deliver_eq_of_process (process_of_lost hev h) (Or.inr ⟨_, rfl⟩)

theorem deliver_of_create (hev : newContextEvent env call delivery.now = .ok event)
    (hc : (∃ e, env.pg.read event.eventTs = .error e) ∨
      event.key ∈ tables.contextEvents.rows.map NewContextEvent.key) :
    delivery.deliver env call tables = tables := by
  -- applied or not, the insert leaves the events as they are
  have hevs : (createEvent env.pg event tables.contextEvents).2 = tables.contextEvents := by
    rcases createEvent_cases event tables.contextEvents with ⟨e, h⟩ | ⟨-, h⟩ | ⟨hfr, h⟩
    · exact congrArg Prod.snd h
    · exact congrArg Prod.snd h
    · rcases hc with ⟨e, hr⟩ | ht
      · simp [createEvent, hr]
      · exact absurd ht hfr
  cases hf : delivery.faults 0 with
  | lost => exact deliver_of_lost hf
  | unacknowledged =>
    refine deliver_eq_of_process (process_of_unacknowledged hev hf) ?_
    rw [hevs]
    exact Or.inr ⟨_, rfl⟩
  -- an insert that is answered stops the processor, by an error or as a duplicate
  | none =>
    cases hr : env.pg.read event.eventTs with
    | error e =>
      exact deliver_eq_of_process (process_of_refused hev hf hr) (Or.inr ⟨_, rfl⟩)
    | ok t =>
      rcases hc with ⟨e, her⟩ | ht
      · rw [hr] at her
        cases her
      · exact deliver_eq_of_process (process_of_taken hev hf hr ht) (Or.inl rfl)

theorem inert_of_taken (hev : newContextEvent env call now = .ok event)
    (ht : event.key ∈ tables.contextEvents.rows.map NewContextEvent.key) :
    Inert env call tables := by
  intro delivery
  obtain ⟨event', hev', hk⟩ := exists_newContextEvent delivery.now hev
  exact deliver_of_create hev' (Or.inr (hk ▸ ht))

theorem inert_of_error {e : JsError} (h : newContextEvent env call now = .error e) :
    Inert env call tables := by
  intro delivery
  cases hev : newContextEvent env call delivery.now with
  | error e' => exact deliver_of_error hev
  | ok event =>
    obtain ⟨event', hev', -⟩ := exists_newContextEvent now hev
    rw [h] at hev'
    cases hev'

theorem inert_of_unreadable (hev : newContextEvent env call now = .ok event)
    (hn : ∃ t, env.pg.read now = .ok t) {e : JsError}
    (hr : env.pg.read event.eventTs = .error e) : Inert env call tables := by
  intro delivery
  by_cases hti : CarriesTime call
  · apply deliver_of_create ((newContextEvent_of_carriesTime now hti).trans hev)
    exact Or.inl ⟨e, hr⟩
  · obtain ⟨t, ht⟩ := hn
    rw [(newContextEvent_of_not_carriesTime now hti hev).1, ht] at hr
    cases hr

theorem inert_deliver (h : delivery.faults 0 = .none) :
    Inert env call (delivery.deliver env call tables) := by
  cases hev : newContextEvent env call delivery.now with
  | error e =>
    exact inert_of_error hev
  | ok event =>
    cases hr : env.pg.read event.eventTs with
    | error e =>
      exact inert_of_unreadable hev delivery.readable hr
    | ok t =>
      by_cases ht : event.key ∈ tables.contextEvents.rows.map NewContextEvent.key
      · rw [deliver_of_create hev (Or.inr ht)]
        exact inert_of_taken hev ht
      · -- the event was inserted, and the projections do not write the events
        apply inert_of_taken hev
        have hi : (delivery.deliver env call tables).contextEvents =
            tables.contextEvents.insert event :=
          contextEvents_process_of_free hev h hr ht
        rw [hi]
        apply List.mem_map_of_mem
        exact KeyedTable.mem_insert.mpr (Or.inr ⟨ht, rfl⟩)

theorem redeliver_of_inert (h : Inert env call tables) (deliveries : List (Redelivery env.pg)) :
    redeliver env call deliveries tables = tables := by
  induction deliveries with
  | nil => rfl
  | cons delivery deliveries ih =>
    change redeliver env call deliveries (delivery.deliver env call tables) = tables
    rw [h delivery, ih]

theorem redeliver_eq_deliver (call : ProcessCall) (tables : IngestTables)
    {deliveries : List (Redelivery env.pg)}
    (hf : ∀ delivery ∈ deliveries, delivery.faults 0 = .lost ∨ delivery.faults = noFaults)
    (hs : ∃ delivery ∈ deliveries, delivery.faults = noFaults) :
    ∃ delivery ∈ deliveries, delivery.faults = noFaults ∧
      redeliver env call deliveries tables = delivery.deliver env call tables := by
  induction deliveries with
  | nil => simp at hs
  | cons delivery deliveries ih =>
    rcases hf delivery List.mem_cons_self with hl | hn
    · -- nothing has happened yet
      have hs' : ∃ delivery ∈ deliveries, delivery.faults = noFaults := by
        obtain ⟨other, ho, hn⟩ := hs
        rcases List.mem_cons.mp ho with rfl | ho
        · rw [hn] at hl
          cases hl
        · exact ⟨other, ho, hn⟩
      obtain ⟨other, ho, hn, heq⟩ :=
        ih (fun d hd => hf d (List.mem_cons_of_mem _ hd)) hs'
      refine ⟨other, List.mem_cons_of_mem _ ho, hn, ?_⟩
      change redeliver env call deliveries (delivery.deliver env call tables) = _
      rw [deliver_of_lost hl, heq]
    · refine ⟨delivery, List.mem_cons_self, hn, ?_⟩
      exact redeliver_of_inert (inert_deliver (congrFun hn 0)) deliveries

/-! ## The time of an arrival -/

variable {faults : ℕ → Fault} {originHeader : Option String}

def DbSession.replaceEvents (events : KeyedTable NewContextEvent.key)
    (s : DbSession IngestTables) : DbSession IngestTables :=
  { s with tables := { s.tables with contextEvents := events } }

theorem commutes_replaceEvents {α : Type} (events : KeyedTable NewContextEvent.key)
    {f : IngestTables → Except JsError α × IngestTables}
    (hf : ∀ t : IngestTables, f { t with contextEvents := events } =
      ((f t).1, { (f t).2 with contextEvents := events })) :
    Program.Commutes (DbSession.replaceEvents events) (statement faults f) :=
  commutes_statement (g := fun t : IngestTables => { t with contextEvents := events }) hf

theorem commutes_project (events : KeyedTable NewContextEvent.key) :
    Program.Commutes (DbSession.replaceEvents events)
      (project env faults event originHeader) := by
  refine Commutes.bind ?_ fun _ => Commutes.bind ?_ fun _ =>
    Commutes.bind ?_ fun _ => Commutes.bind ?_ fun _ => ?_
  · -- no projection reads or writes the events; each is a sequence of statements on its own table
    unfold projectRun
    split
    · split
      · apply Commutes.bind (commutes_replaceEvents events fun t => rfl)
        intro existing
        cases existing with
        | none => exact commutes_replaceEvents events fun t => rfl
        | some current => exact commutes_replaceEvents events fun t => rfl
      · exact commutes_pure _
    · exact commutes_pure _
  · unfold projectLineage
    split
    · split
      · apply Commutes.bind (commutes_ofExcept _)
        intro nonempty
        split
        · apply Commutes.bind (commutes_ofExcept _)
          intro sources
          -- one statement for each source of the context
          apply Commutes.forM
          intro fromCtxId _
          exact commutes_replaceEvents events fun t => rfl
        · exact commutes_pure _
      · exact commutes_pure _
    · exact commutes_pure _
  · unfold projectLifecycle
    split
    · split
      · exact commutes_replaceEvents events fun t => rfl
      · exact commutes_pure _
    · exact commutes_pure _
  · unfold projectAgent
    split
    · exact commutes_replaceEvents events fun t => rfl
    · exact commutes_pure _
  · unfold projectRegistry
    split
    · exact commutes_replaceEvents events fun t => rfl
    · exact commutes_pure _

theorem projectLifecycle_of_not_transition (h : event.isTransition = false) :
    projectLifecycle env faults event = pure () := by
  unfold projectLifecycle
  cases event.ctxId with
  | none => rfl
  | some ctxId => simp [h]

theorem project_eventTs (h : event.isTransition = false) (eventTs : String) :
    project env faults { event with eventTs } originHeader =
      project env faults event originHeader := by
  have ho : ({ event with eventTs } : NewContextEvent).isTransition = false := h
  unfold project
  rw [projectLifecycle_of_not_transition h, projectLifecycle_of_not_transition ho]
  rfl

theorem isTransition_eq_false {now : String} (h : ¬ IsTransitionCall call)
    (hev : newContextEvent env call now = .ok event) : event.isTransition = false := by
  by_contra ht
  apply h
  refine ⟨event.eventType, (rowOf_newContextEvent hev).eventType, ?_⟩
  apply or_iff_not_imp_left.mpr
  simpa [NewContextEvent.isTransition] using ht

theorem deliver_of_free {delivery : Redelivery env.pg} (h : delivery.faults = noFaults)
    (hev : newContextEvent env call delivery.now = .ok event) {t : Int}
    (hr : env.pg.read event.eventTs = .ok t)
    (hf : event.key ∉ tables.contextEvents.rows.map NewContextEvent.key) :
    delivery.deliver env call tables =
      (Program.after (project env noFaults event call.originHeader >>= fun _ =>
        pure ProcessResult.processed)
        (DbSession.withEvents ⟨tables, 0⟩ (tables.contextEvents.insert event))).tables := by
  have hn : delivery.faults (DbSession.mk tables 0).calls = .none := congrFun h 0
  unfold Redelivery.deliver after
  rw [process_of_free hev hn hr hf, h]

theorem effects_deliver {delivery delivery' : Redelivery env.pg} (h : delivery.faults = noFaults)
    (h' : delivery'.faults = noFaults) (hti : CarriesTime call ∨ ¬ IsTransitionCall call) :
    (delivery.deliver env call tables).effects = (delivery'.deliver env call tables).effects := by
  by_cases hc : CarriesTime call
  · -- the processor does the same
    have hs : newContextEvent env call delivery.now = newContextEvent env call delivery'.now :=
      newContextEvent_of_carriesTime _ hc
    simp only [Redelivery.deliver, EventProcessorService.process, hs, h, h']
  · have htr := hti.resolve_left hc
    cases hev : newContextEvent env call delivery.now with
    | error e => rw [inert_of_error hev delivery, inert_of_error hev delivery']
    | ok event =>
      obtain ⟨hts, hev'⟩ := newContextEvent_of_not_carriesTime delivery'.now hc hev
      by_cases ht : event.key ∈ tables.contextEvents.rows.map NewContextEvent.key
      · rw [inert_of_taken hev ht delivery, inert_of_taken hev ht delivery']
      · obtain ⟨t, hr⟩ := delivery.readable
        obtain ⟨t', hr'⟩ := delivery'.readable
        rw [← hts] at hr
        rw [deliver_of_free h hev hr ht, deliver_of_free h' hev' hr' ht,
          project_eventTs (isTransition_eq_false htr hev) delivery'.now]
        -- the rows that were inserted differ in their time, and in nothing else
        have hco : Commutes
            (DbSession.replaceEvents
              (tables.contextEvents.insert { event with eventTs := delivery'.now }))
            (project env noFaults event call.originHeader >>= fun _ =>
              pure ProcessResult.processed) :=
          (commutes_project _).bind fun _ => commutes_pure _
        have ha := hco.after_eq
          (DbSession.withEvents ⟨tables, 0⟩ (tables.contextEvents.insert event))
        exact (congrArg (fun s => s.tables.effects) ha).symm

/-- First, for every event and every sequence of its deliveries: if the insert of each delivery is lost
or none of its statements fails, and one delivery goes through, then the effects are those of a single
delivery that succeeds at any time, provided that a retract or a republish carries its time. Second, a
delivery that has succeeded is the last one that changes anything, whatever happens to the others. -/
theorem exactly_once_effects (env : ProcessorEnv) (call : ProcessCall) :
    (∀ (tables : IngestTables) (deliveries : List (Redelivery env.pg)) (first : Redelivery env.pg),
      (∀ delivery ∈ deliveries, delivery.faults 0 = .lost ∨ delivery.faults = noFaults) →
      (∃ delivery ∈ deliveries, delivery.faults = noFaults) →
      (CarriesTime call ∨ ¬ IsTransitionCall call) →
      (redeliver env call deliveries tables).effects =
        (first.faultless.deliver env call tables).effects) ∧
    ∀ (tables : IngestTables) (delivery : Redelivery env.pg) (again : List (Redelivery env.pg))
      (result : ProcessResult) (s : DbSession IngestTables),
      delivery.process env call tables = .ok result s →
      redeliver env call again (delivery.deliver env call tables) =
        delivery.deliver env call tables := by
  constructor
  · intro tables deliveries first hfa hs ht
    obtain ⟨delivery, -, hn, heq⟩ := redeliver_eq_deliver call tables hfa hs
    rw [heq]
    exact effects_deliver hn rfl ht
  · intro tables delivery again result s hp
    apply redeliver_of_inert
    apply inert_deliver
    -- a delivery whose insert fails does not succeed
    unfold Redelivery.process at hp
    cases hev : newContextEvent env call delivery.now with
    | error e =>
      rw [process_of_error hev] at hp
      cases hp
    | ok event =>
      cases hf : delivery.faults 0 with
      | none => rfl
      | lost =>
        rw [process_of_lost hev hf] at hp
        cases hp
      | unacknowledged =>
        rw [process_of_unacknowledged hev hf] at hp
        cases hp

end Times

/-! ## A publish of a run -/

/-- A publish of `acme.com` in the run `r`. -/
def publishCall : ProcessCall where
  payload := .obj [("type", .str "context_published"), ("agent_id", .str "did:web:a"),
    ("registry_authority", .str "acme.com"), ("run_id", .str "r")]
  runIdOverride := none
  tenantId := "acme"
  originHeader := none
  eventId := some (.str "1")

def losing (i : ℕ) : Redelivery sampleProcessor.pg where
  now := ""
  readable := ⟨0, rfl⟩
  faults j := if j = i then .lost else .none

def goingThrough : Redelivery sampleProcessor.pg := ⟨"", ⟨0, rfl⟩, noFaults⟩

/-- The insert is lost, and the next delivery goes through. -/
theorem exactly_once_effects_publish :
    (redeliver sampleProcessor publishCall [losing 0, goingThrough] .empty).effects =
      (goingThrough.deliver sampleProcessor publishCall .empty).effects ∧
    (goingThrough.deliver sampleProcessor publishCall .empty).runs.rows.map
      RunRow.contextsCount = [1] := by
  refine ⟨?_, rfl⟩
  refine (exactly_once_effects sampleProcessor publishCall).1 .empty [losing 0, goingThrough]
    goingThrough ?_ ⟨goingThrough, by simp, rfl⟩ (Or.inr ?_)
  · intro delivery hd
    rcases List.mem_cons.mp hd with rfl | hd
    · exact Or.inl rfl
    · rw [List.mem_singleton.mp hd]
      exact Or.inr rfl
  · rintro ⟨eventType, ht, hk⟩
    cases ht
    revert hk
    decide

/-- The insert is applied and the next statement fails: the redelivery succeeds as a duplicate, and the
run is missing. -/
theorem projection_lost :
    (redeliver sampleProcessor publishCall [losing 1, goingThrough] .empty).runs.rows.map
        RunRow.contextsCount = [] ∧
      (goingThrough.deliver sampleProcessor publishCall .empty).runs.rows.map
        RunRow.contextsCount = [1] := ⟨rfl, rfl⟩

end AcdpControlPlane
