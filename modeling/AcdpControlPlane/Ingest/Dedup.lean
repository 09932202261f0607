import AcdpControlPlane.Common.Dedup
import AcdpControlPlane.Ingest.Process

/-!
# Duplicates among registries

An event is skipped as a duplicate if an event with its fingerprint was stored in its tenant before. The
fingerprint is the event id that the sender has chosen, or a hash of some members; the sender itself is
not part of it. So a registry can have the event of another registry of its tenant skipped, by sending
an event with the same id first (`foreign_duplicate_skipped`).
-/

namespace AcdpControlPlane

open List

section Runs

variable (env : ProcessorEnv) (ingest : IngestEnv) (config : IngestConfig)

/-- The key under which a delivery is stored, if it is accepted, converted and read. -/
def storageKey (arrival : IngestArrival) : Option (String × String) :=
  match acceptRequest ingest config arrival.enrollments arrival.req with
  | .error _ => none
  | .ok call =>
    match newContextEvent env call arrival.now with
    | .error _ => none
    | .ok event =>
      match env.pg.read event.eventTs with
      | .error _ => none
      | .ok _ => some event.key

/-- What became of a delivery: it was answered as a duplicate, or its event is a new row, or neither. -/
def deliveryAnswer (before : IngestTables)
    (handled : Except IngestError ProcessResult × IngestTables) : Dedup.Answer :=
  match handled.1 with
  | .ok .duplicate => .skipped
  | _ =>
    if before.contextEvents.rows.length < handled.2.contextEvents.rows.length then .stored
    else .refused

/-- What becomes of deliveries, one after the other. -/
def dedupRun : IngestTables → List IngestArrival → List (IngestArrival × Dedup.Answer)
  | _, [] => []
  | tables, arrival :: arrivals =>
    let handled := arrival.handle env noFaults ingest config tables
    (arrival, deliveryAnswer tables handled) :: dedupRun handled.2 arrivals

def sentBy (registry : String) (arrival : IngestArrival) : Bool :=
  match (ingest.jsonParse (ingest.decodeUtf8 arrival.req.body)).bind claimedAuthority with
  | some (.str authority) => authority = registry
  | _ => false

end Runs

section Refinement

variable {env : ProcessorEnv} {ingest : IngestEnv} {config : IngestConfig}
  {arrival : IngestArrival} {tables : IngestTables}

def eventKeys (tables : IngestTables) : List (String × String) :=
  tables.contextEvents.rows.map NewContextEvent.key

theorem not_duplicate_after_project {event : NewContextEvent} {originHeader : Option String}
    {s s' : DbSession IngestTables} :
    (project env noFaults event originHeader >>= fun _ => pure ProcessResult.processed) s ≠
      .ok .duplicate s' := by
  intro h
  cases hr : project env noFaults event originHeader s with
  | ok u s'' =>
    rw [Program.bind_of_ok hr] at h
    cases h
  | error e s'' =>
    rw [Program.bind_of_error hr] at h
    cases h

theorem handle_of_refused (tables : IngestTables) (h : storageKey env ingest config arrival = none) :
    ∃ e, arrival.handle env noFaults ingest config tables = (.error e, tables) := by
  unfold IngestArrival.handle
  cases ha : acceptRequest ingest config arrival.enrollments arrival.req with
  | error e => exact ⟨e, handle_of_error ha⟩
  | ok call =>
    simp only [IngestService.handle, ha]
    cases hev : newContextEvent env call arrival.now with
    | error e =>
      rw [process_of_error hev]
      exact ⟨.js e, rfl⟩
    | ok event =>
      cases hr : env.pg.read event.eventTs with
      | error e =>
        rw [process_of_refused hev rfl hr]
        exact ⟨.js e, rfl⟩
      | ok t =>
        simp only [storageKey, ha, hev, hr] at h
        cases h

theorem event_of_storageKey {key : String × String}
    (h : storageKey env ingest config arrival = some key) :
    ∃ call event t, acceptRequest ingest config arrival.enrollments arrival.req = .ok call ∧
      newContextEvent env call arrival.now = .ok event ∧ env.pg.read event.eventTs = .ok t ∧
      event.key = key := by
  -- a key is computed in three stages, and none of them has failed
  unfold storageKey at h
  cases ha : acceptRequest ingest config arrival.enrollments arrival.req with
  | error e =>
    simp only [ha] at h
    cases h
  | ok call =>
    simp only [ha] at h
    cases hev : newContextEvent env call arrival.now with
    | error e =>
      simp only [hev] at h
      cases h
    | ok event =>
      simp only [hev] at h
      cases hr : env.pg.read event.eventTs with
      | error e =>
        simp only [hr] at h
        cases h
      | ok t =>
        simp only [hr] at h
        exact ⟨call, event, t, rfl, hev, hr, Option.some.inj h⟩

theorem handle_of_duplicate {key : String × String}
    (h : storageKey env ingest config arrival = some key) (ht : key ∈ eventKeys tables) :
    arrival.handle env noFaults ingest config tables = (.ok .duplicate, tables) := by
  obtain ⟨call, event, t, ha, hev, hr, rfl⟩ := event_of_storageKey h
  have hp : EventProcessorService.process env noFaults call arrival.now ⟨tables, 0⟩ = _ :=
    process_of_taken hev rfl hr ht
  simp only [IngestArrival.handle, IngestService.handle, ha, hp]
  rfl

theorem handle_of_new {key : String × String}
    (h : storageKey env ingest config arrival = some key) (hf : key ∉ eventKeys tables) :
    (arrival.handle env noFaults ingest config tables).1 ≠ .ok .duplicate ∧
      eventKeys (arrival.handle env noFaults ingest config tables).2 =
        eventKeys tables ++ [key] := by
  obtain ⟨call, event, t, ha, hev, hre, rfl⟩ := event_of_storageKey h
  have hp : EventProcessorService.process env noFaults call arrival.now ⟨tables, 0⟩ = _ :=
    process_of_free hev rfl hre hf
  simp only [IngestArrival.handle, IngestService.handle, ha, hp]
  -- the event is a new row, and the projections do not write the events
  have hk : ∀ s' : DbSession IngestTables,
      s'.tables.contextEvents = tables.contextEvents.insert event →
        eventKeys s'.tables = eventKeys tables ++ [event.key] := by
    intro s' hs'
    unfold eventKeys
    rw [hs', KeyedTable.rows_insert hf, map_append]
    rfl
  have hevs : (Program.after (project env noFaults event call.originHeader >>= fun _ =>
      pure ProcessResult.processed)
      (DbSession.withEvents ⟨tables, 0⟩ (tables.contextEvents.insert event))).tables.contextEvents =
        tables.contextEvents.insert event := contextEvents_after_project
  unfold Program.after at hevs
  cases hr : (project env noFaults event call.originHeader >>= fun _ =>
      pure ProcessResult.processed)
      (DbSession.withEvents ⟨tables, 0⟩ (tables.contextEvents.insert event)) with
  | ok result s' =>
    rw [hr] at hevs
    refine ⟨?_, hk s' hevs⟩
    intro hd
    cases hd
    exact not_duplicate_after_project hr
  | error e s' =>
    rw [hr] at hevs
    exact ⟨by simp, hk s' hevs⟩

theorem deliveryAnswer_of_grown {ha : Except IngestError ProcessResult × IngestTables}
    (hr : ha.1 ≠ .ok .duplicate)
    (hg : tables.contextEvents.rows.length < ha.2.contextEvents.rows.length) :
    deliveryAnswer tables ha = .stored := by
  obtain ⟨result, after⟩ := ha
  cases result with
  | error e => exact if_pos hg
  | ok result =>
    cases result with
    | duplicate => exact absurd rfl hr
    | processed => exact if_pos hg

theorem deliveryAnswer_handle (arrival : IngestArrival) (before : List IngestArrival)
    (hke : ∀ key, key ∈ eventKeys tables ↔
      some key ∈ before.map (storageKey env ingest config)) :
    deliveryAnswer tables (arrival.handle env noFaults ingest config tables) =
        Dedup.answer (storageKey env ingest config) before arrival ∧
      ∀ key, key ∈ eventKeys (arrival.handle env noFaults ingest config tables).2 ↔
        some key ∈ (before ++ [arrival]).map (storageKey env ingest config) := by
  cases hk : storageKey env ingest config arrival with
  | none =>
    -- a delivery without a key writes nothing
    obtain ⟨e, hh⟩ := handle_of_refused tables hk
    rw [hh]
    refine ⟨by simp [deliveryAnswer, Dedup.answer, hk], ?_⟩
    simp [hke, hk]
  | some key =>
    by_cases ht : key ∈ eventKeys tables
    · -- the key was stored by an earlier delivery
      rw [handle_of_duplicate hk ht]
      have hs := (hke key).mp ht
      refine ⟨by simp only [deliveryAnswer, Dedup.answer, hk, if_pos hs], ?_⟩
      intro other
      rw [hke, map_append, mem_append]
      refine ⟨Or.inl, ?_⟩
      rintro (ho | ho)
      · exact ho
      · rw [map_singleton, mem_singleton, hk] at ho
        rw [ho]
        exact hs
    · obtain ⟨hr, ha⟩ := handle_of_new hk ht
      -- the key is new, and there is one more row than before
      have hu : some key ∉ before.map (storageKey env ingest config) :=
        fun hs => ht ((hke key).mpr hs)
      constructor
      · have hl : tables.contextEvents.rows.length <
            (arrival.handle env noFaults ingest config tables).2.contextEvents.rows.length := by
          have := congrArg length ha
          simp only [eventKeys, length_map, length_append, length_singleton] at this
          omega
        rw [deliveryAnswer_of_grown hr hl]
        simp only [Dedup.answer, hk, if_neg hu]
      · intro other
        rw [ha, mem_append, hke, map_append, mem_append]
        simp [hk, eq_comm]

theorem dedupRun_eq_answers (before arrivals : List IngestArrival)
    (hk : ∀ key, key ∈ eventKeys tables ↔
      some key ∈ before.map (storageKey env ingest config)) :
    dedupRun env ingest config tables arrivals =
      Dedup.answers (storageKey env ingest config) before arrivals := by
  induction arrivals generalizing before tables with
  | nil => rfl
  | cons arrival arrivals ih =>
    obtain ⟨han, ha⟩ := deliveryAnswer_handle arrival before hk
    simp only [dedupRun, Dedup.answers, han, ih (before ++ [arrival]) ha]

/-- For every registry and every sequence of deliveries, whatever their bodies and headers: what becomes
of the deliveries of the registry is what becomes of them without the deliveries of the others, if and
only if, whenever such a delivery has the key of an earlier delivery, an earlier delivery of the same
registry had this key. -/
theorem deliveries_isolated_iff (registry : String) (arrivals : List IngestArrival) :
    (dedupRun env ingest config .empty arrivals).filter (sentBy ingest registry ·.1) =
        dedupRun env ingest config .empty (arrivals.filter (sentBy ingest registry)) ↔
      ∀ before arrival after, arrivals = before ++ arrival :: after →
        sentBy ingest registry arrival = true →
        ∀ key, storageKey env ingest config arrival = some key →
          (∃ earlier ∈ before, storageKey env ingest config earlier = some key) →
          ∃ earlier ∈ before, sentBy ingest registry earlier = true ∧
            storageKey env ingest config earlier = some key := by
  have hem : ∀ key, key ∈ eventKeys .empty ↔
      some key ∈ ([] : List IngestArrival).map (storageKey env ingest config) := by
    simp [eventKeys, IngestTables.empty, KeyedTable.empty]
  rw [dedupRun_eq_answers [] arrivals hem, dedupRun_eq_answers [] _ hem]
  have hi := Dedup.filter_answers_eq_iff (storageKey env ingest config)
    (sentBy ingest registry) [] arrivals
  rw [filter_nil] at hi
  rw [hi]
  simp only [nil_append, mem_map, mem_filter, and_assoc]

end Refinement

/-! ## Two registries of one tenant -/

def identifiedFrom (authority : String) : Json :=
  .obj [("type", .str "context_retrieved"), ("registry_authority", .str authority),
    ("event_id", .str "1")]

/-- A platform on which the empty body is an event of `acme.com`, and every other body one of
`other.com` with the same id. -/
def twoRegistries : IngestEnv where
  hmacSha256 secret _ := secret
  decodeUtf8 body := if body = [] then "" else "other"
  jsonParse text :=
    some (if text = "" then identifiedFrom "acme.com" else identifiedFrom "other.com")

def acmeArrival : IngestArrival := ⟨sampleRequest "aa", tenantEnrollments, ""⟩

def otherArrival : IngestArrival :=
  ⟨{ sampleRequest "cc" with body := [0] }, tenantEnrollments, ""⟩

/-- `other.com` has the event of `acme.com` skipped: both are signed by their senders, and the event is
stored if it is the only one. -/
theorem foreign_duplicate_skipped :
    ((dedupRun sampleProcessor twoRegistries sampleIngestConfig .empty
        [otherArrival, acmeArrival]).filter (sentBy twoRegistries "acme.com" ·.1)).map Prod.snd =
      [.skipped] ∧
    (dedupRun sampleProcessor twoRegistries sampleIngestConfig .empty
      ([otherArrival, acmeArrival].filter (sentBy twoRegistries "acme.com"))).map Prod.snd =
        [.stored] := ⟨rfl, rfl⟩

end AcdpControlPlane
