import AcdpControlPlane.Revocation.Sweep

/-!
# What a pass records

Every pass, however it ends, only records facts: those of candidates that verified, and those of
members of the lineages it walked. `revocationSweep_records` says which, once, and the facts of a
run only grow. In the other direction a pass whose statements succeed leaves a fact under the key
of every candidate that verified, though not necessarily the fact of that candidate.
-/

namespace AcdpControlPlane

open List

open Relation (ReflTransGen)

/-! ## Tables -/

namespace FactTable

variable {table : FactTable} {fact : KeyRevocation} {rows : List KeyRevocation}

theorem mem_record {row : KeyRevocation} :
    fact ∈ (table.record row).rows ↔
      fact ∈ table.rows ∨ fact = row ∧ row.key ∉ table.rows.map KeyRevocation.key := by
  unfold record
  split
  · next ht => simp [ht]
  · next hf => simp [hf]

theorem exists_key_record (table : FactTable) (row : KeyRevocation) :
    ∃ fact ∈ (table.record row).rows, fact.key = row.key := by
  by_cases ht : row.key ∈ table.rows.map KeyRevocation.key
  · obtain ⟨fact, hf, hk⟩ := mem_map.mp ht
    exact ⟨fact, mem_record.mpr (Or.inl hf), hk⟩
  · exact ⟨row, mem_record.mpr (Or.inr ⟨rfl, ht⟩), rfl⟩

def recordAll (rows : List KeyRevocation) (table : FactTable) : FactTable :=
  rows.foldl record table

theorem recordAll_append (rows rows' : List KeyRevocation) (table : FactTable) :
    recordAll (rows ++ rows') table = recordAll rows' (recordAll rows table) :=
  foldl_append

theorem subset_recordAll (hf : fact ∈ table.rows) : fact ∈ (recordAll rows table).rows := by
  induction rows generalizing table with
  | nil => exact hf
  | cons row rows ih => exact ih (mem_record.mpr (Or.inl hf))

theorem mem_recordAll
    (hf : fact ∈ (recordAll rows table).rows) : fact ∈ table.rows ∨ fact ∈ rows := by
  induction rows generalizing table with
  | nil => exact Or.inl hf
  | cons row rows ih =>
    rcases ih hf with hf | hf
    · rcases mem_record.mp hf with hf | ⟨rfl, -⟩
      · exact Or.inl hf
      · exact Or.inr mem_cons_self
    · exact Or.inr (mem_cons_of_mem _ hf)

theorem countByLineage_pos {tenantId lineageId : String} (hf : fact ∈ table.rows) (ht : fact.tenantId = tenantId)
    (hl : fact.lineageId = lineageId) : 0 < table.countByLineage tenantId lineageId := by
  refine countP_pos_iff.mpr ⟨fact, hf, ?_⟩
  simp [ht, hl]

end FactTable

/-- Rows with a property were recorded, and the events are the same. -/
def Records (P : KeyRevocation → Prop) (db db' : RevocationDb) : Prop :=
  db'.events = db.events ∧
    ∃ rows, (∀ row ∈ rows, P row) ∧ db'.facts = FactTable.recordAll rows db.facts

namespace Records

variable {P Q : KeyRevocation → Prop} {db db' db'' : RevocationDb}

theorem refl (P : KeyRevocation → Prop) (db : RevocationDb) : Records P db db :=
  ⟨rfl, [], nofun, rfl⟩

theorem trans (h : Records P db db') (h' : Records P db' db'') : Records P db db'' := by
  obtain ⟨hev, rows, hro, hf⟩ := h
  obtain ⟨hev', rows', hro', hf'⟩ := h'
  refine ⟨hev'.trans hev, rows ++ rows', fun row hr => ?_, ?_⟩
  · rcases mem_append.mp hr with hr | hr
    · exact hro row hr
    · exact hro' row hr
  · rw [hf', hf, FactTable.recordAll_append]

theorem mono (h : Records P db db') (hPQ : ∀ row, P row → Q row) : Records Q db db' := by
  obtain ⟨hev, rows, hr, hf⟩ := h
  exact ⟨hev, rows, fun row hro => hPQ row (hr row hro), hf⟩

theorem subset (h : Records P db db') {fact : KeyRevocation} (hf : fact ∈ db.facts.rows) :
    fact ∈ db'.facts.rows := by
  obtain ⟨-, rows, -, hfc⟩ := h
  rw [hfc]
  exact FactTable.subset_recordAll hf

theorem mem (h : Records P db db') {fact : KeyRevocation} (hf : fact ∈ db'.facts.rows) :
    fact ∈ db.facts.rows ∨ P fact := by
  obtain ⟨-, rows, hr, hfc⟩ := h
  rw [hfc] at hf
  exact (FactTable.mem_recordAll hf).imp_right (hr fact)

end Records

/-! ## The effects of a pass -/

def EventRow (sdk : RevocationSdk) (env : RevocationEnv) (evs : List ContextEvent)
    (row : KeyRevocation) : Prop :=
  ∃ ev ∈ evs, ∃ revocation body, verifyEvent sdk (env.event ev) ev = .verified revocation body ∧
    row = eventFact ev revocation body

def MemberRow (sdk : RevocationSdk) (env : RevocationEnv) (row : KeyRevocation) : Prop :=
  ∃ params members counts, walkRevocationLineage (verifyRevocationBody sdk (env.walk params)) params
      (env.walk params).get = .ok (.ok members counts) ∧
    ∃ member ∈ members, row = memberFact params member

def PassRow (sdk : RevocationSdk) (cfg : RevocationConfig) (env : RevocationEnv)
    (db : RevocationDb) (row : KeyRevocation) : Prop :=
  EventRow sdk env (candidates cfg env db) row ∨ MemberRow sdk env row

section Effects

variable {sdk : RevocationSdk} {cfg : RevocationConfig} {env : RevocationEnv} {db : RevocationDb}

theorem recordFact_records (env : RevocationEnv) (fact : KeyRevocation) (db : RevocationDb) :
    Records (· = fact) db (recordFact env fact db).2 := by
  unfold recordFact
  split
  · exact .refl _ db
  · exact ⟨rfl, [fact], fun row hr => mem_singleton.mp hr, rfl⟩

variable {ev : ContextEvent} {revocation : ParsedRevocation} {body : Json}

theorem auditCandidate_unverified {queue : LineageQueue}
    (hv : ∀ revocation body, verifyEvent sdk (env.event ev) ev ≠ .verified revocation body) :
    auditCandidate sdk cfg env ev queue db = (.ok queue, db) := by
  unfold auditCandidate
  split
  · rfl
  · next revocation body ho => exact absurd ho (hv revocation body)

theorem auditCandidate_verified {queue : LineageQueue}
    (hv : verifyEvent sdk (env.event ev) ev = .verified revocation body) :
    auditCandidate sdk cfg env ev queue db =
      match env.refuses (eventFact ev revocation body) with
      | some err => (.error err, db)
      | none =>
        (if skipsLineage cfg env ev (lineageOf body ev)
            (db.facts.countByLineage ev.tenantId (lineageOf body ev)) db then .ok queue
          else queueLineage env ev (lineageOf body ev) queue,
        { db with facts := db.facts.record (eventFact ev revocation body) }) := by
  unfold auditCandidate recordFact
  rw [hv]
  dsimp only
  cases env.refuses (eventFact ev revocation body) with
  | some err => rfl
  | none =>
    -- recording a fact leaves the cursors alone, so freshness is read off the old tables
    by_cases hl : lineageOf body ev = ""
    · simp [skipsLineage, hl]
    · simp only [ne_eq, hl, not_false_eq_true, if_true]
      split <;> rename_i hs
      · exact (congrArg (·, _) (if_pos hs)).symm
      · exact (congrArg (·, _) (if_neg hs)).symm

theorem auditCandidate_records (sdk : RevocationSdk) (cfg : RevocationConfig)
    (env : RevocationEnv) (ev : ContextEvent) (queue : LineageQueue) (db : RevocationDb) :
    Records (EventRow sdk env [ev]) db (auditCandidate sdk cfg env ev queue db).2 := by
  by_cases hv : ∃ revocation body,
      verifyEvent sdk (env.event ev) ev = .verified revocation body
  · obtain ⟨revocation, body, hv⟩ := hv
    rw [auditCandidate_verified hv]
    split
    · exact .refl _ db
    · refine ⟨rfl, [eventFact ev revocation body], fun row hr => ?_, rfl⟩
      obtain rfl := mem_singleton.mp hr
      exact ⟨ev, mem_singleton_self ev, revocation, body, hv, rfl⟩
  · rw [auditCandidate_unverified fun revocation body h => hv ⟨revocation, body, h⟩]
    exact .refl _ db

theorem auditCandidates_records (evs : List ContextEvent) (queue : LineageQueue) (db : RevocationDb) :
    Records (EventRow sdk env evs) db (auditCandidates sdk cfg env evs queue db).2 := by
  induction evs generalizing queue db with
  | nil => exact .refl _ db
  | cons ev rest ih =>
    have hh : Records (EventRow sdk env (ev :: rest)) db
        (auditCandidate sdk cfg env ev queue db).2 := by
      refine (auditCandidate_records sdk cfg env ev queue db).mono ?_
      rintro row ⟨ev', hev', hr⟩
      obtain rfl := mem_singleton.mp hev'
      exact ⟨ev', mem_cons_self, hr⟩
    have hre : ∀ queue' db', Records (EventRow sdk env (ev :: rest)) db'
        (auditCandidates sdk cfg env rest queue' db').2 := by
      intro queue' db'
      refine (ih queue' db').mono ?_
      rintro row ⟨ev', hev', hr⟩
      exact ⟨ev', mem_cons_of_mem _ hev', hr⟩
    unfold auditCandidates
    split
    · next hru =>
      rw [hru] at hh
      exact hh
    · next hru =>
      rw [hru] at hh
      exact hh.trans (hre _ _)

theorem recordMembers_records (params : LineageWalkParams) (members : List LineageMember)
    (db : RevocationDb) :
    Records (fun row => ∃ member ∈ members, row = memberFact params member) db
      (recordMembers env params members db).2 := by
  induction members generalizing db with
  | nil => exact .refl _ db
  | cons member rest ih =>
    have hh := (recordFact_records env (memberFact params member) db).mono
      (Q := fun row => ∃ member' ∈ member :: rest, row = memberFact params member')
      fun row hr => ⟨member, mem_cons_self, hr⟩
    unfold recordMembers
    split
    · next hru =>
      rw [hru] at hh
      exact hh
    · next hru =>
      rw [hru] at hh
      refine hh.trans ((ih _).mono ?_)
      rintro row ⟨member', hm', hr⟩
      exact ⟨member', mem_cons_of_mem _ hm', hr⟩

theorem walkAndPersistLineage_records (sdk : RevocationSdk) (env : RevocationEnv)
    (params : LineageWalkParams) (db : RevocationDb) :
    Records (MemberRow sdk env) db (walkAndPersistLineage sdk env params db).2 := by
  unfold walkAndPersistLineage
  split
  · exact .refl _ db
  · exact .refl _ db
  · next members counts hw =>
    have hm : Records (MemberRow sdk env) db (recordMembers env params members db).2 :=
      (recordMembers_records params members db).mono fun row hro =>
        ⟨params, members, counts, hw, hro⟩
    split
    · next hr =>
      rw [hr] at hm
      exact hm
    · next hr =>
      rw [hr] at hm
      exact hm

theorem walkLineages_records (sdk : RevocationSdk) (env : RevocationEnv)
    (queue : List LineageWalkParams) (db : RevocationDb) :
    Records (MemberRow sdk env) db (walkLineages sdk env queue db).2 := by
  induction queue generalizing db with
  | nil => exact .refl _ db
  | cons params rest ih =>
    have hh := walkAndPersistLineage_records sdk env params db
    unfold walkLineages
    split
    · next hr =>
      rw [hr] at hh
      exact hh
    · next hr =>
      rw [hr] at hh
      exact hh.trans (ih _)

theorem revocationSweep_records (sdk : RevocationSdk) (cfg : RevocationConfig) (env : RevocationEnv)
    (db : RevocationDb) : Records (PassRow sdk cfg env db) db (revocationSweep sdk cfg env db).2 := by
  have ha : Records (PassRow sdk cfg env db) db (auditPass sdk cfg env db).2 :=
    (auditCandidates_records (candidates cfg env db) [] db).mono fun _ hr => Or.inl hr
  unfold revocationSweep
  split
  · exact .refl _ db
  · split
    · next hru =>
      rw [hru] at ha
      exact ha
    · next queue audited hru =>
      rw [hru] at ha
      split
      · exact ha
      · have hwk : Records (PassRow sdk cfg env db) audited
            (walkLineages sdk env (queue.map Prod.snd) audited).2 :=
          (walkLineages_records sdk env _ audited).mono fun _ hr => Or.inr hr
        split
        · next hw =>
          rw [hw] at hwk
          exact ha.trans hwk
        · next hw =>
          rw [hw] at hwk
          exact ha.trans hwk

/-- The statements for an event succeed: its fact can be recorded, and the row of its registry can
be read. -/
structure StatementsSucceed (sdk : RevocationSdk) (env : RevocationEnv) (ev : ContextEvent) :
    Prop where
  record : ∀ revocation body, verifyEvent sdk (env.event ev) ev = .verified revocation body →
    env.refuses (eventFact ev revocation body) = none
  baseUrl : ∃ baseUrl?, env.queueBaseUrl ev = .ok baseUrl?

theorem queueLineage_isOk {baseUrl? : Option String}
    (hb : env.queueBaseUrl ev = .ok baseUrl?) (lineageId : String) (queue : LineageQueue) :
    ∃ queue', queueLineage env ev lineageId queue = .ok queue' := by
  unfold queueLineage
  rw [hb]
  dsimp only
  split
  · exact ⟨queue, rfl⟩
  · exact ⟨_, rfl⟩

theorem auditCandidate_isOk (cfg : RevocationConfig)
    (hev : StatementsSucceed sdk env ev) (queue : LineageQueue) (db : RevocationDb) :
    ∃ queue' db', auditCandidate sdk cfg env ev queue db = (.ok queue', db') := by
  by_cases hv : ∃ revocation body,
      verifyEvent sdk (env.event ev) ev = .verified revocation body
  · obtain ⟨revocation, body, hv⟩ := hv
    obtain ⟨baseUrl?, hb⟩ := hev.baseUrl
    obtain ⟨queue', hq'⟩ := queueLineage_isOk hb (lineageOf body ev) queue
    rw [auditCandidate_verified hv, hev.record revocation body hv]
    dsimp only
    split
    · exact ⟨_, _, rfl⟩
    · exact ⟨queue', _, by rw [hq']⟩
  · exact ⟨queue, db, auditCandidate_unverified fun revocation body h =>
      hv ⟨revocation, body, h⟩⟩

theorem auditCandidate_covers (cfg : RevocationConfig) (hev : StatementsSucceed sdk env ev)
    (hv : verifyEvent sdk (env.event ev) ev = .verified revocation body) (queue : LineageQueue)
    (db : RevocationDb) :
    ∃ fact ∈ (auditCandidate sdk cfg env ev queue db).2.facts.rows,
      fact.key = (eventFact ev revocation body).key := by
  rw [auditCandidate_verified hv, hev.record revocation body hv]
  exact db.facts.exists_key_record (eventFact ev revocation body)

theorem auditCandidates_covers (cfg : RevocationConfig) {evs : List ContextEvent}
    (hevs : ∀ ev ∈ evs, StatementsSucceed sdk env ev) (queue : LineageQueue) (db : RevocationDb) :
    (∃ queue', (auditCandidates sdk cfg env evs queue db).1 = .ok queue') ∧
      ∀ ev ∈ evs, ∀ revocation body,
        verifyEvent sdk (env.event ev) ev = .verified revocation body →
          ∃ fact ∈ (auditCandidates sdk cfg env evs queue db).2.facts.rows,
            fact.key = (eventFact ev revocation body).key := by
  induction evs generalizing queue db with
  | nil => exact ⟨⟨queue, rfl⟩, nofun⟩
  | cons hea rest ih =>
    obtain ⟨hh, hr⟩ := forall_mem_cons.mp hevs
    obtain ⟨queue', db', hru⟩ := auditCandidate_isOk cfg hh queue db
    have hu : auditCandidates sdk cfg env (hea :: rest) queue db =
        auditCandidates sdk cfg env rest queue' db' := by
      rw [auditCandidates, hru]
    rw [hu]
    refine ⟨(ih hr queue' db').1, fun ev hev revocation body hv => ?_⟩
    rcases mem_cons.mp hev with rfl | hev
    · have hc := auditCandidate_covers cfg hh hv queue db
      rw [hru] at hc
      obtain ⟨fact, hf, hk⟩ := hc
      exact ⟨fact, (auditCandidates_records rest queue' db').subset hf, hk⟩
    · exact (ih hr queue' db').2 ev hev revocation body hv

theorem revocationSweep_covers {cfg : RevocationConfig} (ha : env.acquired = true)
    (hevs : ∀ ev ∈ candidates cfg env db, StatementsSucceed sdk env ev)
    (hev : ev ∈ candidates cfg env db)
    (hv : verifyEvent sdk (env.event ev) ev = .verified revocation body) :
    ∃ fact ∈ (revocationSweep sdk cfg env db).2.facts.rows,
      fact.key = (eventFact ev revocation body).key := by
  obtain ⟨⟨queue, hq⟩, hc⟩ := auditCandidates_covers cfg hevs [] db
  obtain ⟨fact, hf, hk⟩ := hc ev hev revocation body hv
  have hp : auditPass sdk cfg env db = (.ok queue, (auditPass sdk cfg env db).2) :=
    Prod.ext hq rfl
  refine ⟨fact, ?_, hk⟩
  unfold revocationSweep
  rw [hp, ha]
  dsimp only
  have hwk := walkLineages_records sdk env (queue.map Prod.snd) (auditPass sdk cfg env db).2
  split
  · next hl => cases hl
  · split
    · exact hf
    · split
      · next hw =>
        rw [hw] at hwk
        exact hwk.subset hf
      · next hw =>
        rw [hw] at hwk
        exact hwk.subset hf

end Effects

/-! ## Runs -/

/-- A step: a pass that meets a condition, or any change of the events, which are ingested and
retired by other services. -/
inductive RevocationStep (sdk : RevocationSdk)
    (Guard : RevocationConfig → RevocationEnv → RevocationDb → Prop) :
    RevocationDb → RevocationDb → Prop where
  | pass (cfg : RevocationConfig) (env : RevocationEnv) (db : RevocationDb)
      (hguard : Guard cfg env db) : RevocationStep sdk Guard db (revocationSweep sdk cfg env db).2
  | events (db : RevocationDb) (events : List ContextEvent) :
      RevocationStep sdk Guard db { db with events := events }

abbrev RevocationRun (sdk : RevocationSdk)
    (Guard : RevocationConfig → RevocationEnv → RevocationDb → Prop) :
    RevocationDb → RevocationDb → Prop :=
  ReflTransGen (RevocationStep sdk Guard)

theorem facts_subset_of_run {sdk : RevocationSdk}
    {Guard : RevocationConfig → RevocationEnv → RevocationDb → Prop} {db db' : RevocationDb}
    (hr : RevocationRun sdk Guard db db') {fact : KeyRevocation}
    (hf : fact ∈ db.facts.rows) : fact ∈ db'.facts.rows := by
  induction hr with
  | refl => exact hf
  | tail _ hs ih =>
    cases hs with
    | pass cfg env _ _ => exact (revocationSweep_records sdk cfg env _).subset ih
    | events _ events => exact ih

/-! ## A sample -/

def sampleBody (agent ctxId : String) : Json :=
  .obj [("ctx_id", .str ctxId), ("lineage_id", .str ("lin:" ++ agent)),
    ("type", .str REVOCATION_CONTEXT_TYPE), ("agent_id", .str ("did:web:" ++ agent)),
    ("content_hash", .str ("sha256:" ++ agent)),
    ("signature", .obj [("algorithm", .str "ed25519"),
      ("key_id", .str ("did:web:" ++ agent ++ "#new")),
      ("value", .str ("did:web:" ++ agent ++ "#new signs sha256:" ++ agent))])]

def sampleRevocation (agent : String) : ParsedRevocation :=
  ⟨"fingerprint of did:web:" ++ agent ++ "#old", "2024-01-01T00:00:00Z", none, none,
    "did:web:" ++ agent, "did:web:" ++ agent, .producer_signed⟩

def sampleTexts : List (String × String) :=
  [("a", "c1"), ("a", "c2"), ("m", "c1"), ("m", "x")]

def sampleText (bodyJson : String) : Option (String × String) :=
  sampleTexts.find? fun (agent, ctxId) => (sampleBody agent ctxId).stringify = bodyJson

def sampleRevocationSdk : RevocationSdk where
  verifyContentHash bodyJson hash :=
    match sampleText bodyJson with
    | some (agent, _) =>
      if hash = "sha256:" ++ agent then .ok () else .error ⟨some "hash_mismatch", "hash"⟩
    | none => .error ⟨some "schema_violation", "body"⟩
  verifyBodyOffline _ := .error ⟨some "invalid_signature", "not a did:key"⟩
  verifyCtxIdBinding bodyJson ctxId :=
    if (sampleText bodyJson).any (·.2 = ctxId) then .ok ()
    else .error ⟨none, "context substitution: ctx_id"⟩
  fingerprintEd25519B64 key := .ok ("fingerprint of " ++ key)
  parseKeyRevocation bodyJson _ :=
    match sampleText bodyJson with
    | some (agent, _) =>
      .ok (.obj [("trust_class", .str "producer_signed"),
        ("revoked_key_fingerprint", .str (sampleRevocation agent).revokedKeyFingerprint),
        ("compromised_since", .str (sampleRevocation agent).compromisedSince),
        ("revoked_key_controller", .str (sampleRevocation agent).revokedKeyController),
        ("publisher", .str (sampleRevocation agent).publisher)])
    | none => .error ⟨some "schema_violation", "body"⟩
  stripFragment := stripFragment
  verifySignatureB64 key hash sig := sig = key ++ " signs " ++ hash

def sampleOutside (responses : List (String × Json)) : Outside where
  get url :=
    match responses.lookup url with
    | some response => .ok ⟨200, .ok response⟩
    | none => .ok ⟨503, .error ⟨"Unexpected end of JSON input"⟩⟩
  resolveKey keyId := .ok keyId
  registryBaseUrl authority _ := .ok (some ("https://" ++ authority))
  registryDid _ _ := .ok none

def sampleRevocationEnv (responses : List (String × Json)) : RevocationEnv where
  acquired := true
  nowMs := 1000
  event _ := sampleOutside responses
  freshNowMs _ := 1000
  queueBaseUrl ev := .ok (some ("https://" ++ ev.registryAuthority))
  refuses _ := none
  walk _ := sampleOutside responses
  walkedAt _ := 1000

def sampleRevocationConfig : RevocationConfig := ⟨24, 100, 1⟩

def sampleEvent (registry ctxId : String) (createdAt : Int) : ContextEvent :=
  ⟨"event " ++ ctxId, "default", some ctxId, none, some REVOCATION_CONTEXT_TYPE, registry, createdAt⟩

def sampleContext (registry agent ctxId : String) : String × Json :=
  ("https://" ++ registry ++ "/contexts/" ++ ctxId, .obj [("body", sampleBody agent ctxId)])

def sampleRevocationDb (events : List ContextEvent) : RevocationDb :=
  { RevocationDb.empty with events := events }

theorem run_sampleRevocationDb (sdk : RevocationSdk)
    (Guard : RevocationConfig → RevocationEnv → RevocationDb → Prop) (events : List ContextEvent) :
    RevocationRun sdk Guard RevocationDb.empty (sampleRevocationDb events) :=
  .single (.events RevocationDb.empty events)

def sampleRevocationPass (responses : List (String × Json)) (db : RevocationDb) : RevocationDb :=
  (revocationSweep sampleRevocationSdk sampleRevocationConfig (sampleRevocationEnv responses) db).2

end AcdpControlPlane
