import AcdpControlPlane.Common.Separated
import AcdpControlPlane.Ingest.Process

/-!
# What the fingerprint tells apart

A registry that sends no event id has its events identified by `dedupKey`
(`src/processor/event-processor.service.ts`): the hash of six members, with colons between them. An event
whose fingerprint is taken is skipped, so events that have the same fingerprint are merged.
-/

namespace AcdpControlPlane

open List

/-! ## The fingerprint -/

namespace ProcessCall

variable (call : ProcessCall)

def runId : Option Json := (Json.nullish call.runIdOverride).or (call.payload.member "run_id")

/-- The values that tell one event from another. -/
def identity : List (Option Json) :=
  [call.payload.member "type", call.payload.member "ctx_id", call.payload.member "agent_id",
    (Json.nullish (call.payload.member "created_at")).or (call.payload.member "at"), call.runId,
    call.payload.member "version"].map Json.nullish

def hashed : List (Option Json) :=
  [call.payload.member "type", call.payload.member "ctx_id", call.payload.member "agent_id",
    call.payload.member "created_at", call.runId, call.payload.member "version"]

def fieldTexts : Except JsError (List String) := call.hashed.mapM (nullishText · "")

end ProcessCall

def segments (texts : List String) : List String := texts.flatMap (Separated.split · ':')

def truncatedHash (env : ProcessorEnv) (text : String) : String :=
  String.ofList ((env.sha256 text).toList.take 32)

section Fingerprint

variable {env : ProcessorEnv} {call call' : ProcessCall} {texts texts' : List String}

theorem dedupKey_of_fieldTexts (hi : Json.isTruthy call.eventId = false)
    (ht : call.fieldTexts = .ok texts) :
    dedupKey env call.payload call.runId call.eventId =
      .ok (truncatedHash env (String.intercalate ":" texts)) := by
  unfold dedupKey
  rw [hi, if_neg Bool.false_ne_true]
  exact Throwing.bind_eq_ok.mpr ⟨texts, ht, rfl⟩

theorem ne_nil_of_fieldTexts (ht : call.fieldTexts = .ok texts) : texts ≠ [] := by
  unfold ProcessCall.fieldTexts ProcessCall.hashed at ht
  rw [mapM_cons] at ht
  obtain ⟨first, _, hr⟩ := Throwing.bind_eq_ok.mp ht
  obtain ⟨rest, _, hc⟩ := Throwing.bind_eq_ok.mp hr
  cases hc
  exact cons_ne_nil first rest

theorem dedupKey_eq_dedupKey_iff (hi : Json.isTruthy call.eventId = false)
    (hi' : Json.isTruthy call'.eventId = false) (ht : call.fieldTexts = .ok texts)
    (ht' : call'.fieldTexts = .ok texts') (hh : Set.InjOn (truncatedHash env)
      {String.intercalate ":" texts, String.intercalate ":" texts'}) :
    dedupKey env call.payload call.runId call.eventId =
        dedupKey env call'.payload call'.runId call'.eventId ↔
      segments texts = segments texts' := by
  have hg : ":".toList = [':'] := rfl
  have hj := Separated.join_eq_join_iff hg
    (ne_nil_of_fieldTexts ht) (ne_nil_of_fieldTexts ht')
  unfold segments
  rw [dedupKey_of_fieldTexts hi ht, dedupKey_of_fieldTexts hi' ht', Except.ok.injEq, ← hj]
  constructor
  · exact hh (Set.mem_insert _ _) (Set.mem_insert_of_mem _ rfl)
  · intro h
    rw [h]

theorem fingerprint_of_newContextEvent {now : String} {event : NewContextEvent}
    (h : newContextEvent env call now = .ok event) :
    dedupKey env call.payload call.runId call.eventId = .ok event.fingerprint := by
  obtain ⟨eventType, _, h⟩ := Throwing.bind_eq_ok.mp h
  obtain ⟨agentId, _, h⟩ := Throwing.bind_eq_ok.mp h
  obtain ⟨authority, _, h⟩ := Throwing.bind_eq_ok.mp h
  obtain ⟨eventTs, _, h⟩ := Throwing.bind_eq_ok.mp h
  obtain ⟨fingerprint, hf, h⟩ := Throwing.bind_eq_ok.mp h
  cases h
  exact hf

end Fingerprint

/-! ## Transitions that are stored -/

/-- A retract or a republish without an event id: it is converted, and its time is read. -/
structure TransitionDelivery (env : ProcessorEnv) where
  call : ProcessCall
  now : String
  event : NewContextEvent
  ctxId : Json
  eventAt : Int
  texts : List String
  withoutId : Json.isTruthy call.eventId = false
  converted : newContextEvent env call now = .ok event
  fieldTexts : call.fieldTexts = .ok texts
  transition : event.isTransition = true
  context : event.ctxId = some ctxId
  named : Json.isTruthy (some ctxId) = true
  read : env.pg.read event.eventTs = .ok eventAt

namespace TransitionDelivery

variable {env : ProcessorEnv}

def input (delivery : TransitionDelivery env) : LifecycleTransitionInput where
  ctxId := env.columns.text delivery.ctxId
  tenantId := delivery.event.tenantId
  lineageId := delivery.event.lineageId.map env.columns.text
  retracted := delivery.event.eventType = ACDP_EVENT_CONTEXT_RETRACTED
  eventAt := delivery.eventAt
  actor := Json.strOf (delivery.event.rawPayload.member "actor")
  reason := Json.strOf (delivery.event.rawPayload.member "reason")

end TransitionDelivery

/-- Every delivery of a sequence is stored as a row of its own, and applied to its context. -/
def StoredAndApplied (env : ProcessorEnv) :
    List (TransitionDelivery env) → IngestTables → Prop
  | [], _ => True
  | delivery :: deliveries, tables =>
    ∃ s, EventProcessorService.process env noFaults delivery.call delivery.now ⟨tables, 0⟩ =
        .ok .processed s ∧
      s.tables.contextEvents.rows = tables.contextEvents.rows ++ [delivery.event] ∧
      s.tables.contextLifecycle = applyTransition delivery.input tables.contextLifecycle ∧
      StoredAndApplied env deliveries s.tables

section Apply

variable {env : ProcessorEnv} {event : NewContextEvent} {s : DbSession IngestTables}

theorem statement_noFaults {α : Type} {f : IngestTables → Except JsError α × IngestTables} {a : α}
    (h : (f s.tables).1 = .ok a) : statement noFaults f s = .ok a ⟨(f s.tables).2, s.calls + 1⟩ := by
  cases hf : f s.tables with
  | mk result tables =>
    rw [hf] at h
    simp only at h
    simp [statement, noFaults, hf, h]

def lifecyclePart (tables : IngestTables) :
    KeyedTable NewContextEvent.key × KeyedTable ContextLifecycle.key :=
  (tables.contextEvents, tables.contextLifecycle)

theorem ignoresProjections_lifecyclePart : IgnoresProjections lifecyclePart :=
  ⟨fun _ _ => rfl, fun _ _ => rfl, fun _ _ => rfl, fun _ _ => rfl⟩

/-- A program returns and leaves these tables alone. -/
def Passes (p : Statements IngestTables Unit) : Prop :=
  ∀ s, ∃ s', p s = .ok () s' ∧ lifecyclePart s'.tables = lifecyclePart s.tables

theorem passes_of_keeps {p : Statements IngestTables Unit} (hke : KeepsPart lifecyclePart p)
    (hr : ∀ s, ∃ s', p s = .ok () s') : Passes p := by
  intro s
  obtain ⟨s', hs'⟩ := hr s
  have hk := hke s
  rw [Program.after_of_ok hs'] at hk
  exact ⟨s', hs', hk⟩

theorem insertRun_of_free {run : RunRow} {runs : KeyedTable RunRow.key}
    (hf : runs.find? run.key = none) : insertRun run runs = (.ok (), runs.insert run) :=
  if_neg (KeyedTable.find?_eq_none_iff.mp hf)

theorem upsertFromEvent_noFaults {runId scenarioId registryAuthority tenantId : String}
    (s : DbSession IngestTables) :
    ∃ s', upsertFromEvent noFaults runId scenarioId registryAuthority tenantId s = .ok () s' := by
  unfold upsertFromEvent
  have hs := statement_noFaults (s := s) (f := IngestTables.onRuns (selectRun tenantId runId)) rfl
  rw [Program.bind_of_ok hs]
  cases hf : s.tables.runs.find? (tenantId, runId) with
  | none => exact ⟨_, statement_noFaults (congrArg Prod.fst (insertRun_of_free hf))⟩
  | some current => exact ⟨_, statement_noFaults rfl⟩

theorem passes_projectRun : Passes (projectRun env noFaults event) := by
  refine passes_of_keeps (keeps_projectRun ignoresProjections_lifecyclePart) ?_
  intro s
  unfold projectRun
  cases event.runId with
  | none => exact ⟨s, rfl⟩
  | some runId =>
    by_cases ht : Json.isTruthy (some runId) = true
    · simp only [ht, if_true]
      exact upsertFromEvent_noFaults s
    · simp only [ht]
      exact ⟨s, rfl⟩

theorem passes_projectAgent : Passes (projectAgent noFaults event) := by
  refine passes_of_keeps (keeps_projectAgent ignoresProjections_lifecyclePart) ?_
  intro s
  unfold projectAgent
  by_cases ha : event.agentId ≠ ""
  · rw [if_pos ha]
    exact ⟨_, statement_noFaults rfl⟩
  · rw [if_neg ha]
    exact ⟨s, rfl⟩

theorem passes_projectRegistry {originHeader : Option String} :
    Passes (projectRegistry noFaults event originHeader) := by
  refine passes_of_keeps (keeps_projectRegistry ignoresProjections_lifecyclePart) ?_
  intro s
  unfold projectRegistry
  by_cases ha : event.registryAuthority ≠ ""
  · rw [if_pos ha]
    exact ⟨_, statement_noFaults rfl⟩
  · rw [if_neg ha]
    exact ⟨s, rfl⟩

theorem projectLineage_of_transition (h : event.isTransition = true) :
    projectLineage env noFaults event = pure () := by
  have hk : event.eventType ≠ ACDP_EVENT_CONTEXT_PUBLISHED := by
    intro hp
    rw [NewContextEvent.isTransition, hp] at h
    exact absurd h (by decide)
  unfold projectLineage
  split
  · rw [if_neg fun h => hk h.1]
  · rfl

theorem projectLifecycle_noFaults (delivery : TransitionDelivery env) :
    projectLifecycle env noFaults delivery.event s =
      .ok () ⟨{ s.tables with
        contextLifecycle := applyTransition delivery.input s.tables.contextLifecycle }, s.calls + 1⟩ := by
  unfold projectLifecycle
  rw [delivery.context]
  simp only [delivery.transition, delivery.named, and_self, if_true]
  have hw : ∀ rows, writeTransition env.pg (env.columns.text delivery.ctxId) delivery.event.tenantId
      (delivery.event.lineageId.map env.columns.text)
      (delivery.event.eventType = ACDP_EVENT_CONTEXT_RETRACTED) delivery.event.eventTs
      (Json.strOf (delivery.event.rawPayload.member "actor"))
      (Json.strOf (delivery.event.rawPayload.member "reason")) rows =
        (.ok (), applyTransition delivery.input rows) := by
    intro rows
    simp only [writeTransition, delivery.read]
    rfl
  rw [statement_noFaults (a := ())]
  · simp only [IngestTables.onContextLifecycle, hw]
  · simp only [IngestTables.onContextLifecycle, hw]

theorem process_transition (delivery : TransitionDelivery env) {tables : IngestTables}
    (hf : delivery.event.key ∉ tables.contextEvents.rows.map NewContextEvent.key) :
    ∃ s, EventProcessorService.process env noFaults delivery.call delivery.now ⟨tables, 0⟩ =
        .ok .processed s ∧
      s.tables.contextEvents.rows = tables.contextEvents.rows ++ [delivery.event] ∧
      s.tables.contextLifecycle = applyTransition delivery.input tables.contextLifecycle := by
  -- every projection succeeds, and only that of the lifecycle writes the lifecycle
  obtain ⟨s₁, hru, hs₁⟩ := @passes_projectRun env delivery.event
    (DbSession.withEvents ⟨tables, 0⟩ (tables.contextEvents.insert delivery.event))
  have hl := projectLifecycle_noFaults (s := s₁) delivery
  obtain ⟨s₃, ha, hs₃⟩ := @passes_projectAgent delivery.event
    ⟨{ s₁.tables with
      contextLifecycle := applyTransition delivery.input s₁.tables.contextLifecycle }, s₁.calls + 1⟩
  obtain ⟨s₄, hre, hs₄⟩ := @passes_projectRegistry delivery.event
    delivery.call.originHeader s₃
  obtain ⟨hev, hr⟩ := Prod.mk.inj (hs₄.trans hs₃)
  obtain ⟨hev₁, hr₁⟩ := Prod.mk.inj hs₁
  have hp : project env noFaults delivery.event delivery.call.originHeader
      (DbSession.withEvents ⟨tables, 0⟩ (tables.contextEvents.insert delivery.event)) = .ok () s₄ := by
    unfold project
    rw [projectLineage_of_transition delivery.transition, Program.bind_of_ok hru]
    change (projectLifecycle env noFaults delivery.event >>= _) s₁ = _
    rw [Program.bind_of_ok hl, Program.bind_of_ok ha]
    exact hre
  refine ⟨s₄, ?_, ?_, ?_⟩
  · rw [process_of_free delivery.converted rfl delivery.read hf]
    exact Program.bind_of_ok hp
  · rw [hev, hev₁]
    exact KeyedTable.rows_insert hf
  · rw [hr, hr₁]
    rfl

theorem process_transition_of_taken (delivery : TransitionDelivery env) {tables : IngestTables}
    (ht : delivery.event.key ∈ tables.contextEvents.rows.map NewContextEvent.key) :
    EventProcessorService.process env noFaults delivery.call delivery.now ⟨tables, 0⟩ =
      .ok .duplicate (DbSession.withEvents ⟨tables, 0⟩ tables.contextEvents) :=
  process_of_taken delivery.converted rfl delivery.read ht

theorem storedAndApplied_iff_keys (deliveries : List (TransitionDelivery env)) (tables : IngestTables) :
    StoredAndApplied env deliveries tables ↔
      (deliveries.map (·.event.key)).Nodup ∧
        ∀ delivery ∈ deliveries,
          delivery.event.key ∉ tables.contextEvents.rows.map NewContextEvent.key := by
  induction deliveries generalizing tables with
  | nil => simp [StoredAndApplied]
  | cons delivery deliveries ih =>
    rw [map_cons, nodup_cons]
    by_cases ht : delivery.event.key ∈ tables.contextEvents.rows.map NewContextEvent.key
    · constructor
      · rintro ⟨s, hp, _⟩
        rw [process_transition_of_taken delivery ht] at hp
        cases hp
      · rintro ⟨_, hf⟩
        exact absurd ht (hf delivery mem_cons_self)
    · obtain ⟨s, hp, hev, hro⟩ := process_transition delivery ht
      -- the keys that are taken afterwards
      have hk : ∀ key, key ∉ s.tables.contextEvents.rows.map NewContextEvent.key ↔
          key ∉ tables.contextEvents.rows.map NewContextEvent.key ∧ key ≠ delivery.event.key := by
        intro key
        rw [hev, map_append, map_singleton, mem_append, mem_singleton, not_or]
      constructor
      · rintro ⟨s', hp', _, _, hr⟩
        rw [hp] at hp'
        cases hp'
        obtain ⟨hn, hf⟩ := (ih _).mp hr
        refine ⟨⟨?_, hn⟩, ?_⟩
        · intro hm
          obtain ⟨other, ho, hs⟩ := mem_map.mp hm
          exact ((hk _).mp (hf other ho)).2 hs
        · intro other ho
          rcases mem_cons.mp ho with rfl | ho
          · exact ht
          · exact ((hk _).mp (hf other ho)).1
      · rintro ⟨⟨hne, hn⟩, hf⟩
        refine ⟨s, hp, hev, hro, (ih _).mpr ⟨hn, ?_⟩⟩
        intro other ho
        refine (hk _).mpr ⟨hf other (mem_cons_of_mem _ ho), ?_⟩
        intro hs
        exact hne (hs ▸ mem_map_of_mem ho)

theorem key_eq_key_iff {delivery delivery' : TransitionDelivery env}
    (ht : delivery.call.tenantId = delivery'.call.tenantId)
    (hh : Set.InjOn (truncatedHash env) {String.intercalate ":" delivery.texts,
      String.intercalate ":" delivery'.texts}) :
    delivery.event.key = delivery'.event.key ↔ segments delivery.texts = segments delivery'.texts := by
  have hr := rowOf_newContextEvent delivery.converted
  have hr' := rowOf_newContextEvent delivery'.converted
  rw [← dedupKey_eq_dedupKey_iff delivery.withoutId delivery'.withoutId delivery.fieldTexts
    delivery'.fieldTexts hh, fingerprint_of_newContextEvent delivery.converted,
    fingerprint_of_newContextEvent delivery'.converted, Except.ok.injEq]
  unfold NewContextEvent.key
  rw [Prod.mk.injEq, hr.tenant, hr'.tenant]
  exact and_iff_right ht

end Apply

/-- **Distinct events are kept apart exactly when their segments differ.** So it is for the keys of two
events without an event id, and for the steps of any sequence of retracts and republishes. -/
theorem distinct_events_iff (env : ProcessorEnv) :
    (∀ (call call' : ProcessCall) (texts texts' : List String),
      Json.isTruthy call.eventId = false → Json.isTruthy call'.eventId = false →
      call.fieldTexts = .ok texts → call'.fieldTexts = .ok texts' →
      Set.InjOn (truncatedHash env) {String.intercalate ":" texts, String.intercalate ":" texts'} →
      ((call.identity ≠ call'.identity → dedupKey env call.payload call.runId call.eventId ≠
          dedupKey env call'.payload call'.runId call'.eventId) ↔
        call.identity = call'.identity ∨ segments texts ≠ segments texts')) ∧
    ∀ (deliveries : List (TransitionDelivery env)) (tables : IngestTables) (tenantId : String),
      (∀ delivery ∈ deliveries, delivery.call.tenantId = tenantId) →
      Set.InjOn (truncatedHash env)
        {text | ∃ delivery ∈ deliveries, text = String.intercalate ":" delivery.texts} →
      (∀ delivery ∈ deliveries,
        delivery.event.key ∉ tables.contextEvents.rows.map NewContextEvent.key) →
      (StoredAndApplied env deliveries tables ↔ (deliveries.map (segments ·.texts)).Nodup) := by
  constructor
  · intro call call' texts texts' hi hi' ht ht' hh
    have hk := dedupKey_eq_dedupKey_iff hi hi' ht ht' hh
    constructor
    · intro hke
      by_cases hs : call.identity = call'.identity
      · exact Or.inl hs
      · exact Or.inr fun hse => hke hs (hk.mpr hse)
    · rintro (hs | hse) hd
      · exact absurd hs hd
      · exact fun hkey => hse (hk.mp hkey)
  · intro deliveries tables tenantId hte hh hf
    rw [storedAndApplied_iff_keys, and_iff_left hf]
    unfold Nodup
    rw [pairwise_map, pairwise_map]
    apply Pairwise.iff_of_mem
    intro delivery delivery' hm hm'
    refine not_congr (key_eq_key_iff ((hte _ hm).trans (hte _ hm').symm) (hh.mono ?_))
    rintro _ (rfl | rfl)
    · exact ⟨delivery, hm, rfl⟩
    · exact ⟨delivery', hm', rfl⟩

/-! A context is retracted, republished and retracted. -/

def tallyProcessor : ProcessorEnv :=
  { sampleProcessor with pg := ⟨fun text => .ok text.length, fun _ => ""⟩ }

def transitionCall (eventType timeMember time : String) : ProcessCall where
  payload := .obj [("type", .str eventType), ("ctx_id", .str "c"), (timeMember, .str time)]
  runIdOverride := none
  tenantId := "t"
  originHeader := none
  eventId := none

/-- The transition with its time in `created_at`. -/
def publishedTransition (retracted : Bool) (time : String) : TransitionDelivery tallyProcessor :=
  let eventType := if retracted then ACDP_EVENT_CONTEXT_RETRACTED else ACDP_EVENT_CONTEXT_REPUBLISHED
  let texts := [eventType, "c", "", time, "", ""]
  { call := transitionCall eventType "created_at" time
    now := ""
    event :=
      { tenantId := "t", eventType, eventTs := time, runId := none, ctxId := some (.str "c")
        lineageId := none, agentId := "", contextType := none, visibility := none, version := none
        derivedFrom := .arr [], registryAuthority := "", scenarioId := none
        fingerprint := truncatedHash tallyProcessor (String.intercalate ":" texts)
        keyFingerprint := none, receiptPresent := false
        rawPayload := (transitionCall eventType "created_at" time).payload }
    ctxId := .str "c"
    eventAt := time.length
    texts
    withoutId := rfl
    converted := rfl
    fieldTexts := rfl
    transition := by cases retracted <;> rfl
    context := rfl
    named := rfl
    read := rfl }

def republishedContext : List (TransitionDelivery tallyProcessor) :=
  [publishedTransition true "i", publishedTransition false "ii", publishedTransition true "iii"]

theorem injOn_republishedContext :
    Set.InjOn (truncatedHash tallyProcessor)
      {text | ∃ delivery ∈ republishedContext, text = String.intercalate ":" delivery.texts} := by
  have hp : ∀ delivery ∈ republishedContext.map (·.texts),
      ∀ delivery' ∈ republishedContext.map (·.texts),
      truncatedHash tallyProcessor (String.intercalate ":" delivery) =
        truncatedHash tallyProcessor (String.intercalate ":" delivery') →
      String.intercalate ":" delivery = String.intercalate ":" delivery' := by decide
  rintro _ ⟨delivery, hm, rfl⟩ _ ⟨delivery', hm', rfl⟩ h
  exact hp _ (mem_map_of_mem hm) _ (mem_map_of_mem hm') h

theorem distinct_events_republished :
    StoredAndApplied tallyProcessor republishedContext .empty :=
  ((distinct_events_iff tallyProcessor).2 republishedContext .empty "t" (by decide)
    injOn_republishedContext (fun _ _ => not_mem_nil)).mpr (by decide)

def afterCall (call : ProcessCall) (tables : IngestTables) : IngestTables :=
  (Program.after (EventProcessorService.process tallyProcessor noFaults call "") ⟨tables, 0⟩).tables

/-- With their times in `at`, the second retract has the key of the first. It is skipped, and the context
stays as it was republished. -/
theorem distinct_events_merged :
    (transitionCall ACDP_EVENT_CONTEXT_RETRACTED "at" "i").identity ≠
        (transitionCall ACDP_EVENT_CONTEXT_RETRACTED "at" "iii").identity ∧
      dedupKey tallyProcessor (transitionCall ACDP_EVENT_CONTEXT_RETRACTED "at" "i").payload none none =
        dedupKey tallyProcessor (transitionCall ACDP_EVENT_CONTEXT_RETRACTED "at" "iii").payload none none ∧
      ∃ s, EventProcessorService.process tallyProcessor noFaults
          (transitionCall ACDP_EVENT_CONTEXT_RETRACTED "at" "iii") ""
          ⟨afterCall (transitionCall ACDP_EVENT_CONTEXT_REPUBLISHED "at" "ii")
            (afterCall (transitionCall ACDP_EVENT_CONTEXT_RETRACTED "at" "i") .empty), 0⟩ =
            .ok .duplicate s ∧
        (s.tables.contextLifecycle.find? ("t", "c")).map ContextLifecycle.retracted = some false := by
  refine ⟨?_, rfl, ?_⟩
  · intro h
    have ht : (some (Json.str "i") : Option Json) = some (.str "iii") :=
      (cons.inj (cons.inj (cons.inj (cons.inj h).2).2).2).1
    simp at ht
  · exact ⟨_, rfl, rfl⟩

end AcdpControlPlane
