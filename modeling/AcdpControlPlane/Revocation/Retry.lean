import AcdpControlPlane.Revocation.Facts

/-!
# Retrying a failed walk

A lineage is queued only on behalf of a candidate that verified in the same pass. The fact of that
candidate is recorded before the walk, and an event with a fact is not a candidate again, so the
event whose lineage could not be walked never queues it a second time. The lineage is queued again
exactly when another event names it.
-/

namespace AcdpControlPlane

/-- A verified event names a lineage of a tenant at a registry, whose base URL is known and which
was not walked lately. -/
structure Names (sdk : RevocationSdk) (cfg : RevocationConfig) (env : RevocationEnv)
    (db : RevocationDb) (tenantId lineageId registryAuthority : String) (ev : ContextEvent) :
    Prop where
  tenant : ev.tenantId = tenantId
  registry : ev.registryAuthority = registryAuthority
  verified : ∃ revocation body, verifyEvent sdk (env.event ev) ev = .verified revocation body ∧
    lineageOf body ev = lineageId
  baseUrl : ∃ baseUrl, env.queueBaseUrl ev = .ok (some baseUrl) ∧ baseUrl ≠ ""
  stale : db.findFreshLineageCursor tenantId lineageId registryAuthority (env.freshNowMs ev)
    cfg.lineageCursorTtlMs = false

def LineageWalkParams.IsFor (params : LineageWalkParams)
    (tenantId lineageId registryAuthority : String) : Prop :=
  params.tenantId = tenantId ∧ params.lineageId = lineageId ∧
    params.registryAuthority = registryAuthority

section Queue

variable {sdk : RevocationSdk} {cfg : RevocationConfig} {env : RevocationEnv} {db : RevocationDb}
  {tenantId lineageId registryAuthority : String} {ev : ContextEvent} {queue queue' : LineageQueue}

/-! ## Queuing one lineage -/

theorem queueLineage_ok (hq : queueLineage env ev lineageId queue = .ok queue') :
    queue' = queue ∨ ∃ baseUrl, (env.queueBaseUrl ev = .ok (some baseUrl) ∧ baseUrl ≠ "") ∧
      queue' = queue ++ [(queueKey ev.tenantId lineageId ev.registryAuthority,
        ⟨lineageId, ev.registryAuthority, baseUrl, ev.tenantId, ev.ctxId.getD ""⟩)] := by
  unfold queueLineage at hq
  dsimp only at hq
  -- a lineage that is queued already stays as it is
  split at hq
  · cases hq
    exact Or.inl rfl
  · cases hb : env.queueBaseUrl ev with
    | error err =>
      rw [hb] at hq
      cases hq
    | ok baseUrl? =>
      rw [hb] at hq
      cases ht : truthy baseUrl? with
      | none =>
        simp only [Except.map, ht, Except.ok.injEq] at hq
        exact Or.inl hq.symm
      | some baseUrl =>
        simp only [Except.map, ht, Except.ok.injEq] at hq
        obtain ⟨rfl, hn⟩ := truthy_eq_some_iff.mp ht
        exact Or.inr ⟨baseUrl, ⟨rfl, hn⟩, hq.symm⟩

theorem queueLineage_key {baseUrl : String} (hb : env.queueBaseUrl ev = .ok (some baseUrl))
    (hn : baseUrl ≠ "") (hq : queueLineage env ev lineageId queue = .ok queue') :
    queueKey ev.tenantId lineageId ev.registryAuthority ∈ queue'.map Prod.fst := by
  unfold queueLineage at hq
  dsimp only at hq
  split at hq
  · next hqd =>
    cases hq
    obtain ⟨entry, hen, hk⟩ := List.any_eq_true.mp hqd
    exact List.mem_map.mpr ⟨entry, hen, of_decide_eq_true hk⟩
  · rw [hb] at hq
    simp only [Except.map, truthy_eq_some_iff.mpr ⟨rfl, hn⟩, Except.ok.injEq] at hq
    rw [← hq]
    simp

/-! ## One candidate -/

theorem skipsLineage_eq_false {priorFactCount : ℕ} (hl : lineageId ≠ "")
    (hs : db.findFreshLineageCursor ev.tenantId lineageId ev.registryAuthority
      (env.freshNowMs ev) cfg.lineageCursorTtlMs = false) :
    skipsLineage cfg env ev lineageId priorFactCount db = false := by
  simp [skipsLineage, hl, hs]

theorem stale_of_skipsLineage {priorFactCount : ℕ} (hp : 0 < priorFactCount)
    (hs : skipsLineage cfg env ev lineageId priorFactCount db = false) :
    db.findFreshLineageCursor ev.tenantId lineageId ev.registryAuthority
      (env.freshNowMs ev) cfg.lineageCursorTtlMs = false := by
  simp only [skipsLineage, decide_eq_false_iff_not, not_or, not_and, Bool.not_eq_true] at hs
  exact hs.2 hp

theorem auditCandidate_lineageCursors (sdk : RevocationSdk) (cfg : RevocationConfig)
    (env : RevocationEnv) (ev : ContextEvent) (queue : LineageQueue) (db : RevocationDb) :
    (auditCandidate sdk cfg env ev queue db).2.lineageCursors = db.lineageCursors := by
  by_cases hv : ∃ revocation body,
      verifyEvent sdk (env.event ev) ev = .verified revocation body
  · obtain ⟨revocation, body, hv⟩ := hv
    rw [auditCandidate_verified hv]
    split <;> rfl
  · rw [auditCandidate_unverified fun revocation body h => hv ⟨revocation, body, h⟩]

theorem auditCandidate_queue {db' : RevocationDb}
    (hr : auditCandidate sdk cfg env ev queue db = (.ok queue', db')) :
    queue' = queue ∨ ∃ entry, queue' = queue ++ [entry] ∧
      ∀ fact ∈ db.facts.rows, ∀ registryAuthority,
        entry.2.IsFor fact.tenantId fact.lineageId registryAuthority →
          Names sdk cfg env db fact.tenantId fact.lineageId registryAuthority ev := by
  by_cases hv : ∃ revocation body,
      verifyEvent sdk (env.event ev) ev = .verified revocation body
  · obtain ⟨revocation, body, hv⟩ := hv
    rw [auditCandidate_verified hv] at hr
    split at hr
    · cases hr
    · obtain ⟨hq, -⟩ := Prod.mk.inj hr
      split at hq
      · cases hq
        exact Or.inl rfl
      · next hsk =>
        rcases queueLineage_ok hq with hs | ⟨baseUrl, hb, ha⟩
        · exact Or.inl hs
        · refine Or.inr ⟨_, ha, ?_⟩
          rintro fact hf registryAuthority ⟨ht, hl, hre⟩
          -- the fact is there, so the lineage was queued because its last walk is stale
          have hp := FactTable.countByLineage_pos hf ht.symm hl.symm
          have hst := stale_of_skipsLineage hp (Bool.not_eq_true _ ▸ hsk)
          exact ⟨ht, hre, ⟨revocation, body, hv, hl⟩, ⟨baseUrl, hb⟩, by
            rw [← ht, ← hl, ← hre]
            exact hst⟩
  · rw [auditCandidate_unverified fun revocation body h => hv ⟨revocation, body, h⟩] at hr
    cases hr
    exact Or.inl rfl

/-! ## The candidates of a pass -/

theorem Names.of_lineageCursors {db' : RevocationDb} (hc : db'.lineageCursors = db.lineageCursors)
    (hn : Names sdk cfg env db' tenantId lineageId registryAuthority ev) :
    Names sdk cfg env db tenantId lineageId registryAuthority ev := by
  obtain ⟨ht, hr, hv, hb, hs⟩ := hn
  refine ⟨ht, hr, hv, hb, ?_⟩
  unfold RevocationDb.findFreshLineageCursor at hs ⊢
  rwa [hc] at hs

theorem auditCandidates_cons_ok {hea : ContextEvent} {rest : List ContextEvent}
    (hr : (auditCandidates sdk cfg env (hea :: rest) queue db).1 = .ok queue') :
    ∃ queued db', auditCandidate sdk cfg env hea queue db = (.ok queued, db') ∧
      (auditCandidates sdk cfg env rest queued db').1 = .ok queue' := by
  unfold auditCandidates at hr
  split at hr
  · cases hr
  · next queued db' hh => exact ⟨queued, db', hh, hr⟩

theorem auditCandidates_named {fact : KeyRevocation} {evs : List ContextEvent}
    (hf : fact ∈ db.facts.rows) (hru : (auditCandidates sdk cfg env evs queue db).1 = .ok queue')
    {entry : String × LineageWalkParams} (hen : entry ∈ queue')
    (hfo : entry.2.IsFor fact.tenantId fact.lineageId registryAuthority) :
    entry ∈ queue ∨ ∃ ev ∈ evs,
      Names sdk cfg env db fact.tenantId fact.lineageId registryAuthority ev := by
  induction evs generalizing queue db with
  | nil =>
    cases hru
    exact Or.inl hen
  | cons hea rest ih =>
    obtain ⟨queued, db', hh, hre⟩ := auditCandidates_cons_ok hru
    have hr := auditCandidate_records sdk cfg env hea queue db
    have hc := auditCandidate_lineageCursors sdk cfg env hea queue db
    rw [hh] at hr hc
    -- the facts only grow, so the fact is there for the rest of the pass
    rcases ih (hr.subset hf) hre with hq | ⟨ev, hev, hn⟩
    · rcases auditCandidate_queue hh with rfl | ⟨added, rfl, ha⟩
      · exact Or.inl hq
      · rcases List.mem_append.mp hq with hq | hl
        · exact Or.inl hq
        · obtain rfl := List.mem_singleton.mp hl
          exact Or.inr ⟨hea, List.mem_cons_self, ha fact hf registryAuthority hfo⟩
    · exact Or.inr ⟨ev, List.mem_cons_of_mem _ hev, hn.of_lineageCursors hc⟩

theorem auditCandidates_keys {key : String} {evs : List ContextEvent}
    (hr : (auditCandidates sdk cfg env evs queue db).1 = .ok queue')
    (hk : key ∈ queue.map Prod.fst) : key ∈ queue'.map Prod.fst := by
  induction evs generalizing queue db with
  | nil =>
    cases hr
    exact hk
  | cons hea rest ih =>
    obtain ⟨queued, db', hh, hre⟩ := auditCandidates_cons_ok hr
    refine ih hre ?_
    rcases auditCandidate_queue hh with rfl | ⟨added, rfl, -⟩
    · exact hk
    · rw [List.map_append]
      exact List.mem_append_left _ hk

theorem auditCandidates_queues {evs : List ContextEvent} (hl : lineageId ≠ "")
    (hru : (auditCandidates sdk cfg env evs queue db).1 = .ok queue') (hev : ev ∈ evs)
    (hn : Names sdk cfg env db tenantId lineageId registryAuthority ev) :
    queueKey tenantId lineageId registryAuthority ∈ queue'.map Prod.fst := by
  induction evs generalizing queue db with
  | nil => cases hev
  | cons hea rest ih =>
    obtain ⟨queued, db', hh, hr⟩ := auditCandidates_cons_ok hru
    rcases List.mem_cons.mp hev with rfl | hev
    · refine auditCandidates_keys hr ?_
      obtain ⟨rfl, rfl, ⟨revocation, body, hv, rfl⟩, ⟨baseUrl, hb, hne⟩, hs⟩ := hn
      rw [auditCandidate_verified hv] at hh
      split at hh
      · cases hh
      · rw [skipsLineage_eq_false hl hs] at hh
        exact queueLineage_key hb hne (Prod.mk.inj hh).1
    · have hc := auditCandidate_lineageCursors sdk cfg env hea queue db
      rw [hh] at hc
      exact ih hr hev (hn.of_lineageCursors hc.symm)

theorem ctxId_ne_of_mem_candidates {fact : KeyRevocation} (hf : fact ∈ db.facts.rows)
    (hev : ev ∈ candidates cfg env db) (ht : ev.tenantId = fact.tenantId) :
    ev.ctxId ≠ some fact.ctxId := by
  have hp : ev ∈ db.pending (lookbackSince cfg env) :=
    (List.mem_insertionSort _).mp (List.mem_of_mem_take hev)
  have hfr := (of_decide_eq_true (List.mem_filter.mp hp).2).2.2
  intro hc
  exact hfr (List.any_eq_true.mpr ⟨fact, hf, by simp [hc, ht]⟩)

end Queue

/-! ## Runs -/

/-- **When a failed walk is retried.** An event was recorded by a pass. In every later pass whose
statements succeed its lineage is queued if a candidate names it; and whenever the lineage is
queued, a candidate with another context id names it. The recorded event itself is no longer a
candidate. -/
theorem failed_walk_retried (sdk : RevocationSdk) {cfg₀ : RevocationConfig}
    {env₀ : RevocationEnv} {db₀ db : RevocationDb} {e : ContextEvent}
    {revocation : ParsedRevocation} {body : Json} (hctx : e.ctxId.isSome)
    (hlineage : lineageOf body e ≠ "")
    (hrecorded : eventFact e revocation body ∈ (revocationSweep sdk cfg₀ env₀ db₀).2.facts.rows)
    (hrun : RevocationRun sdk (fun _ _ _ => True) (revocationSweep sdk cfg₀ env₀ db₀).2 db)
    (cfg : RevocationConfig) (env : RevocationEnv) :
    ((∀ ev ∈ candidates cfg env db, StatementsSucceed sdk env ev) →
      (∃ ev ∈ candidates cfg env db,
        Names sdk cfg env db e.tenantId (lineageOf body e) e.registryAuthority ev) →
      ∃ queue, (auditPass sdk cfg env db).1 = .ok queue ∧
        queueKey e.tenantId (lineageOf body e) e.registryAuthority ∈ queue.map Prod.fst) ∧
    ∀ queue, (auditPass sdk cfg env db).1 = .ok queue → ∀ entry ∈ queue,
      entry.2.IsFor e.tenantId (lineageOf body e) e.registryAuthority →
        ∃ ev ∈ candidates cfg env db, ev.ctxId ≠ e.ctxId ∧
          Names sdk cfg env db e.tenantId (lineageOf body e) e.registryAuthority ev := by
  have hf := facts_subset_of_run hrun hrecorded
  constructor
  · rintro hst ⟨ev, hev, hn⟩
    obtain ⟨⟨queue, hq⟩, -⟩ := auditCandidates_covers cfg hst [] db
    exact ⟨queue, hq, auditCandidates_queues hlineage hq hev hn⟩
  · intro queue hq entry hen hfo
    rcases auditCandidates_named hf hq hen hfo with hni | ⟨ev, hev, hn⟩
    · cases hni
    · refine ⟨ev, hev, ?_, hn⟩
      -- the event of the fact is not a candidate any more
      have hne := ctxId_ne_of_mem_candidates hf hev hn.tenant
      obtain ⟨ctxId, hs⟩ := Option.isSome_iff_exists.mp hctx
      simpa [eventFact, hs] using hne

def sampleFirst : ContextEvent := sampleEvent "r.example" "c1" 1

def sampleRecorded : RevocationDb :=
  sampleRevocationPass [sampleContext "r.example" "a" "c1"] (sampleRevocationDb [sampleFirst])

theorem sampleFirst_recorded :
    eventFact sampleFirst (sampleRevocation "a") (sampleBody "a" "c1") ∈
      (revocationSweep sampleRevocationSdk sampleRevocationConfig
        (sampleRevocationEnv [sampleContext "r.example" "a" "c1"])
        (sampleRevocationDb [sampleFirst])).2.facts.rows := by
  decide +kernel

/-- A second event of the lineage queues it again. -/
theorem failed_walk_retried_second_event :
    ∃ queue, (auditPass sampleRevocationSdk sampleRevocationConfig
        (sampleRevocationEnv [sampleContext "r.example" "a" "c2"])
        { sampleRecorded with events := [sampleFirst, sampleEvent "r.example" "c2" 2] }).1 =
          .ok queue ∧
      queueKey "default" "lin:a" "r.example" ∈ queue.map Prod.fst := by
  have hl : lineageOf (sampleBody "a" "c1") sampleFirst = "lin:a" := by decide
  have hr := (failed_walk_retried sampleRevocationSdk (e := sampleFirst) rfl (by decide)
    sampleFirst_recorded (.single (.events _ [sampleFirst, sampleEvent "r.example" "c2" 2]))
    sampleRevocationConfig
    (sampleRevocationEnv [sampleContext "r.example" "a" "c2"])).1
  rw [hl] at hr
  unfold sampleRecorded sampleRevocationPass
  refine hr (fun ev _ => ⟨fun _ _ _ => rfl, _, rfl⟩)
    ⟨sampleEvent "r.example" "c2" 2, by decide +kernel, rfl, rfl, ?_, ⟨_, rfl, by decide⟩,
      by decide +kernel⟩
  have hv : (verifyEvent sampleRevocationSdk (sampleOutside [sampleContext "r.example" "a" "c2"])
      (sampleEvent "r.example" "c2" 2)).verifiedWith
        (fun _ body => lineageOf body (sampleEvent "r.example" "c2" 2) = "lin:a") = true := by
    decide +kernel
  obtain ⟨revocation, body, ho, hb⟩ := Outcome.exists_of_verifiedWith hv
  exact ⟨revocation, body, ho, of_decide_eq_true hb⟩

/-- **A failed walk that is not retried.** The pass records the event and queues its lineage, whose
walk fails for now. The same event is within the window of the next pass and the lineage has no
cursor, and yet nothing is queued. -/
theorem failed_walk_not_retried :
    let env := sampleRevocationEnv [sampleContext "r.example" "a" "c1"]
    let params : LineageWalkParams := ⟨"lin:a", "r.example", "https://r.example", "default", "c1"⟩
    (auditPass sampleRevocationSdk sampleRevocationConfig env
        (sampleRevocationDb [sampleFirst])).1 =
        .ok [(queueKey "default" "lin:a" "r.example", params)] ∧
      walkRevocationLineage (verifyRevocationBody sampleRevocationSdk (env.walk params)) params
          (env.walk params).get =
        .ok (.failed (.failure .transient) "lineage fetch returned HTTP 503" .zero) ∧
      sampleRecorded.facts.rows =
        [eventFact sampleFirst (sampleRevocation "a") (sampleBody "a" "c1")] ∧
      sampleRecorded.lineageCursors "default" "lin:a" "r.example" = none ∧
      sampleFirst ∈ sampleRecorded.events ∧
      lookbackSince sampleRevocationConfig env < sampleFirst.createdAt ∧
      (auditPass sampleRevocationSdk sampleRevocationConfig env sampleRecorded).1 = .ok [] := by
  refine ⟨?_, ?_, ?_, ?_, ?_, ?_, ?_⟩
  all_goals decide +kernel

end AcdpControlPlane
