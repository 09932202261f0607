import AcdpControlPlane.Receipt.Reaudit
import AcdpControlPlane.Receipt.Verdicts

/-!
# Severity only grows

Events arrive, facts are recorded, the audit writes rows, and replicas run passes of the re-audit, all
at the same time. A pass reads the facts of its key once, then its candidates, and then makes one
update after another; between any two of these anything else may happen, so that its facts and its
candidates are old when it writes.
-/

namespace AcdpControlPlane

open List KeyedTable

/-! ## Passes in progress -/

structure ReauditPass where
  cfg : ReceiptConfig
  tenantId : String
  fingerprint : String
  all : List KeyRevocation
  rest : Option (List RevocationAmendmentCandidate)

structure ReauditSystem where
  db : ReceiptDb
  passes : List ReauditPass

def ReauditSystem.initial : ReauditSystem := ⟨⟨.empty _, .empty _, .empty⟩, []⟩

inductive ReauditAction where
  | ingest (ev : ReceiptEvent)
  | recordFact (fact : KeyRevocation)
  | audit (cfg : ReceiptConfig) (env : ReceiptEnv) (ev : ReceiptEvent)
  | start (tenantId fingerprint : String)
  | select (i : ℕ)
  | amend (i : ℕ)

def ReauditAction.IsPass : ReauditAction → Bool
  | .start _ _ => true
  | .select _ => true
  | .amend _ => true
  | _ => false

section System

variable (sdk : ReceiptSdk) (pg : Timestamptz) (otherDates : String → Option Int)
  (Configured : ReceiptConfig → Prop)

/-- A step of the system. A pass that throws makes no further step. -/
inductive ReauditStep : ReauditAction → ReauditSystem → ReauditSystem → Prop where
  | ingest {s : ReauditSystem} (ev : ReceiptEvent) :
      ReauditStep (.ingest ev) s { s with db := { s.db with events := s.db.events.insert ev } }
  | recordFact {s : ReauditSystem} (fact : KeyRevocation) :
      ReauditStep (.recordFact fact) s { s with db := { s.db with facts := s.db.facts.record fact } }
  | audit {s : ReauditSystem} {cfg : ReceiptConfig} {env : ReceiptEnv} {ev : ReceiptEvent}
      {now : Int} {row : ReceiptAudit} (configured : Configured cfg)
      (stored : ev ∈ s.db.events.rows) (dates : env.otherDates = otherDates)
      (seen : ∀ facts, env.facts = .ok facts → facts.rows ⊆ s.db.facts.rows)
      (recorded : (toReceiptRow ev (auditReceiptEvent sdk env cfg ev)).store pg now = .ok row) :
      ReauditStep (.audit cfg env ev) s
        { s with db := { s.db with audits := s.db.audits.insert row } }
  | start {s : ReauditSystem} {cfg : ReceiptConfig} {tenantId fingerprint : String}
      (configured : Configured cfg) (gate : reauditsKey sdk cfg fingerprint = true)
      (some_fact : (s.db.facts.findByFingerprint fingerprint tenantId).length ≠ 0) :
      ReauditStep (.start tenantId fingerprint) s
        { s with passes := s.passes ++ [⟨cfg, tenantId, fingerprint,
            s.db.facts.findByFingerprint fingerprint tenantId, none⟩] }
  | select {s : ReauditSystem} {i : ℕ} {pass : ReauditPass} {globalMin : Option String}
      {shuffle : Shuffle} {candidates : List RevocationAmendmentCandidate}
      (running : s.passes[i]? = some pass) (unselected : pass.rest = none)
      (least : globalMinBoundaryIso otherDates pass.all = .ok globalMin)
      (found : findRevocationAmendmentCandidates pg shuffle s.db pass.tenantId pass.fingerprint
        globalMin pass.cfg.receiptAuditBatchSize = .ok candidates) :
      ReauditStep (.select i) s
        { s with passes := s.passes.set i { pass with rest := some candidates } }
  | amend {s : ReauditSystem} {i : ℕ} {pass : ReauditPass}
      {candidate : RevocationAmendmentCandidate} {rest : List RevocationAmendmentCandidate}
      (running : s.passes[i]? = some pass) (next : pass.rest = some (candidate :: rest)) :
      ReauditStep (.amend i) s
        ⟨{ s.db with audits := (amendNext sdk pass.cfg pg otherDates pass.tenantId pass.fingerprint
            pass.all (0, s.db.audits) candidate).2 },
          s.passes.set i { pass with rest := some rest }⟩

/-- What has happened, the last first, and where it led. -/
inductive ReauditRun : List ReauditAction → ReauditSystem → Prop where
  | initial : ReauditRun [] .initial
  | step {history : List ReauditAction} {action : ReauditAction} {s s' : ReauditSystem}
      (run : ReauditRun history s) (step : ReauditStep sdk pg otherDates Configured action s s') :
      ReauditRun (action :: history) s'

def ReauditSteps : ReauditSystem → ReauditSystem → Prop :=
  Relation.ReflTransGen fun s s' => ∃ action, ReauditStep sdk pg otherDates Configured action s s'

def PassSteps : ReauditSystem → ReauditSystem → Prop :=
  Relation.ReflTransGen fun s s' =>
    ∃ action, action.IsPass = true ∧ ReauditStep sdk pg otherDates Configured action s s'

end System

/-! ## Tables only grow -/

structure ReceiptDb.Extends (db db' : ReceiptDb) : Prop where
  events : db.events.rows ⊆ db'.events.rows
  facts : db.facts.rows ⊆ db'.facts.rows
  audits : AuditTable.Tightens db.audits db'.audits

theorem FactTable.findByFingerprint_subset {facts facts' : FactTable} (h : facts.rows ⊆ facts'.rows)
    {fingerprint tenantId : String} :
    facts.findByFingerprint fingerprint tenantId ⊆ facts'.findByFingerprint fingerprint tenantId :=
  fun _ hr => mem_filter.mpr ⟨h (mem_filter.mp hr).1, (mem_filter.mp hr).2⟩

theorem FactTable.subset_record (table : FactTable) (fact : KeyRevocation) :
    table.rows ⊆ (table.record fact).rows := by
  unfold record
  split
  · exact Subset.refl _
  · exact subset_append_left _ _

namespace ReceiptDb.Extends

variable {db db' db'' : ReceiptDb}

theorem refl (db : ReceiptDb) : db.Extends db :=
  ⟨Subset.refl _, Subset.refl _, .refl _⟩

theorem trans (h : db.Extends db') (h' : db'.Extends db'') : db.Extends db'' :=
  ⟨Subset.trans h.events h'.events, Subset.trans h.facts h'.facts,
    h.audits.trans h'.audits⟩

theorem findByFingerprint (h : db.Extends db') (fingerprint tenantId : String) :
    db.facts.findByFingerprint fingerprint tenantId ⊆
      db'.facts.findByFingerprint fingerprint tenantId :=
  FactTable.findByFingerprint_subset h.facts

end ReceiptDb.Extends

section Steps

variable {sdk : ReceiptSdk} {pg : Timestamptz} {otherDates : String → Option Int}
  {Configured : ReceiptConfig → Prop} {history : List ReauditAction} {action : ReauditAction}
  {s s' : ReauditSystem}

theorem ReauditStep.extends (h : ReauditStep sdk pg otherDates Configured action s s') :
    s.db.Extends s'.db := by
  cases h with
  | ingest ev => exact ⟨fun _ => mem_insert_of_mem, Subset.refl _, .refl _⟩
  | recordFact fact => exact ⟨Subset.refl _, s.db.facts.subset_record fact, .refl _⟩
  | audit =>
    refine ⟨Subset.refl _, Subset.refl _, ?_⟩
    exact fun old ho => ⟨old, mem_insert_of_mem ho, .refl old⟩
  | start => exact .refl _
  | select => exact .refl _
  | amend =>
    exact ⟨Subset.refl _, Subset.refl _, amendNext_tightens (0, s.db.audits)⟩

theorem ReauditSteps.extends (h : ReauditSteps sdk pg otherDates Configured s s') :
    s.db.Extends s'.db := by
  induction h with
  | refl => exact .refl _
  | tail _ step ih =>
    obtain ⟨action, step⟩ := step
    exact ih.trans step.extends

theorem PassSteps.steps (h : PassSteps sdk pg otherDates Configured s s') :
    ReauditSteps sdk pg otherDates Configured s s' := by
  refine Relation.ReflTransGen.mono ?_ _ _ h
  rintro s s' ⟨action, -, step⟩
  exact ⟨action, step⟩

theorem steps_of_rounds {db : ReceiptDb} {pass : ReauditPass} {i : ℕ}
    (candidates : List RevocationAmendmentCandidate) (state : ℕ × AuditTable)
    (passes : List ReauditPass) (hr : passes[i]? = some { pass with rest := some candidates }) :
    ∃ passes', PassSteps sdk pg otherDates Configured ⟨{ db with audits := state.2 }, passes⟩
      ⟨{ db with audits := (candidates.foldl (amendNext sdk pass.cfg pg otherDates pass.tenantId
        pass.fingerprint pass.all) state).2 }, passes'⟩ := by
  induction candidates generalizing state passes with
  | nil => exact ⟨passes, .refl⟩
  | cons candidate candidates ih =>
    have hst : ReauditStep sdk pg otherDates Configured (.amend i)
        ⟨{ db with audits := state.2 }, passes⟩ _ := .amend hr rfl
    obtain ⟨hl, -⟩ := List.getElem?_eq_some_iff.mp hr
    obtain ⟨passes', hs⟩ := ih (amendNext sdk pass.cfg pg otherDates pass.tenantId
      pass.fingerprint pass.all state candidate)
      (passes.set i { pass with rest := some candidates }) (getElem?_set_self hl)
    -- the tables after a round do not depend on the rows that were counted
    have hc : (amendNext sdk pass.cfg pg otherDates pass.tenantId pass.fingerprint pass.all state
        candidate).2 = (amendNext sdk pass.cfg pg otherDates pass.tenantId pass.fingerprint pass.all
          (0, state.2) candidate).2 := by
      rw [amendNext_audits, amendNext_audits]
    rw [hc] at hs
    exact ⟨passes', .head ⟨_, rfl, hst⟩ hs⟩

theorem reauditForFingerprint_steps {cfg : ReceiptConfig} {shuffle : Shuffle}
    {tenantId fingerprint : String} {amended : ℕ} {db : ReceiptDb} (hc : Configured cfg)
    (h : reauditForFingerprint sdk cfg pg otherDates shuffle tenantId fingerprint s.db =
      .ok (amended, db)) : ∃ passes, PassSteps sdk pg otherDates Configured s ⟨db, passes⟩ := by
  obtain ⟨-, rfl⟩ | ⟨hk, hn, globalMin, candidates, hm, hf, -, rfl⟩ :=
    reauditForFingerprint_cases h
  · exact ⟨s.passes, .refl⟩
  -- a pass of its own, started and selected, and then its rounds one by one
  let pass : ReauditPass := ⟨cfg, tenantId, fingerprint,
    s.db.facts.findByFingerprint fingerprint tenantId, none⟩
  let passes := (s.passes ++ [pass]).set s.passes.length { pass with rest := some candidates }
  have hstt : ReauditStep sdk pg otherDates Configured (.start tenantId fingerprint) s
      { s with passes := s.passes ++ [pass] } := .start hc hk hn
  have hs : ReauditStep sdk pg otherDates Configured (.select s.passes.length)
      { s with passes := s.passes ++ [pass] } ⟨s.db, passes⟩ :=
    .select (getElem?_concat_length : (s.passes ++ [pass])[s.passes.length]? = some pass) rfl
      hm hf
  have hr : passes[s.passes.length]? = some { pass with rest := some candidates } :=
    getElem?_set_self (by simp)
  obtain ⟨passes', hst⟩ := steps_of_rounds candidates (0, s.db.audits) passes hr
  exact ⟨passes', .head ⟨_, rfl, hstt⟩ (.head ⟨_, rfl, hs⟩ hst)⟩

/-! ## What a pass has read -/

/-- What a pass has read is there, and its checks were passed. -/
structure ReauditPass.Grounded (sdk : ReceiptSdk) (pg : Timestamptz)
    (Configured : ReceiptConfig → Prop) (db : ReceiptDb) (pass : ReauditPass) : Prop where
  configured : Configured pass.cfg
  gate : reauditsKey sdk pass.cfg pass.fingerprint = true
  facts : pass.all ⊆ db.facts.findByFingerprint pass.fingerprint pass.tenantId
  candidates : ∀ rest ∈ pass.rest, ∀ candidate ∈ rest, ∃ row ∈ db.audits.rows,
    ∃ ev ∈ db.events.rows, Claims pass.tenantId pass.fingerprint row ev ∧
      candidateOf pg row ev = candidate

variable {db db' : ReceiptDb} {pass : ReauditPass}

theorem ReauditPass.Grounded.mono (h : pass.Grounded sdk pg Configured db) (hex : db.Extends db') :
    pass.Grounded sdk pg Configured db' where
  configured := h.configured
  gate := h.gate
  facts := Subset.trans h.facts (hex.findByFingerprint _ _)
  candidates := by
    intro rest hre candidate hc
    obtain ⟨row, hr, ev, hev, hcl, heq⟩ := h.candidates rest hre candidate hc
    obtain ⟨row', hr', ht⟩ := hex.audits row hr
    exact ⟨row', hr', ev, hex.events hev, ht.claims hcl,
      (ht.candidateOf_eq pg ev).trans heq⟩

theorem grounded_of_mem_set {passes : List ReauditPass} {i : ℕ} {pass' : ReauditPass}
    (ha : ∀ pass ∈ passes, pass.Grounded sdk pg Configured db)
    (hn : pass'.Grounded sdk pg Configured db) :
    ∀ pass ∈ passes.set i pass', pass.Grounded sdk pg Configured db := by
  intro pass hp
  obtain ho | rfl := mem_or_eq_of_mem_set hp
  · exact ha pass ho
  · exact hn

theorem ReauditStep.grounded (h : ReauditStep sdk pg otherDates Configured action s s')
    (ha : ∀ pass ∈ s.passes, pass.Grounded sdk pg Configured s.db) :
    ∀ pass ∈ s'.passes, pass.Grounded sdk pg Configured s'.db := by
  -- the passes that are not moved by the step
  have hm : ∀ pass ∈ s.passes, pass.Grounded sdk pg Configured s'.db :=
    fun pass hp => (ha pass hp).mono h.extends
  cases h with
  | ingest ev => exact hm
  | recordFact fact => exact hm
  | audit => exact hm
  | start configured gate =>
    intro pass hp
    obtain ho | hn := mem_append.mp hp
    · exact hm pass ho
    · cases mem_singleton.mp hn
      exact ⟨configured, gate, Subset.refl _, (fun _ h => nomatch h)⟩
  | @select _ i pass globalMin shuffle candidates running unselected least found =>
    have hp := hm pass (mem_of_getElem? running)
    apply grounded_of_mem_set hm
    refine ⟨hp.configured, hp.gate, hp.facts, ?_⟩
    rintro rest ⟨⟩ candidate hc
    exact claims_of_found found hc
  | @amend _ i pass candidate rest running next =>
    have hp := hm pass (mem_of_getElem? running)
    apply grounded_of_mem_set hm
    refine ⟨hp.configured, hp.gate, hp.facts, ?_⟩
    rintro rest' ⟨⟩ candidate' hc
    exact hp.candidates _ next candidate' (mem_cons_of_mem _ hc)

theorem ReauditRun.grounded (h : ReauditRun sdk pg otherDates Configured history s) :
    ∀ pass ∈ s.passes, pass.Grounded sdk pg Configured s.db := by
  induction h with
  | initial => exact fun _ h => nomatch h
  | step _ step ih => exact step.grounded ih

end Steps

/-! ## Where a row comes from -/

section Origin

variable (sdk : ReceiptSdk) (pg : Timestamptz) (otherDates : String → Option Int)
  (Configured : ReceiptConfig → Prop)

/-- The ways in which a row is in the table after a step. -/
inductive RowOrigin (action : ReauditAction) (db : ReceiptDb) : ReceiptAudit → Prop where
  | kept {row : ReceiptAudit} (old : row ∈ db.audits.rows) : RowOrigin action db row
  | recorded {cfg : ReceiptConfig} {env : ReceiptEnv} {ev : ReceiptEvent} {now : Int}
      {row : ReceiptAudit} (audit : action = .audit cfg env ev) (configured : Configured cfg)
      (stored : ev ∈ db.events.rows) (dates : env.otherDates = otherDates)
      (seen : ∀ facts, env.facts = .ok facts → facts.rows ⊆ db.facts.rows)
      (fresh : row.eventId ∉ db.audits.rows.map (·.eventId))
      (recorded : (toReceiptRow ev (auditReceiptEvent sdk env cfg ev)).store pg now = .ok row) :
      RowOrigin action db row
  | amended {cfg : ReceiptConfig} {tenantId fingerprint : String} {all : List KeyRevocation}
      {ev : ReceiptEvent} {row : ReceiptAudit} {amendment : Revoked Int}
      (old : row ∈ db.audits.rows) (configured : Configured cfg)
      (gate : reauditsKey sdk cfg fingerprint = true)
      (facts : all ⊆ db.facts.findByFingerprint fingerprint tenantId)
      (event : ev ∈ db.events.rows) (claims : Claims tenantId fingerprint row ev)
      (amends : amendmentFor sdk cfg pg otherDates fingerprint all (candidateOf pg row ev) =
        some amendment)
      (amendable : row.Amendable amendment.boundary) :
      RowOrigin action db { row with keyRevocation := some amendment }

end Origin

section Severity

variable {sdk : ReceiptSdk} {pg : Timestamptz} {otherDates : String → Option Int}
  {Configured : ReceiptConfig → Prop} {history : List ReauditAction} {action : ReauditAction}
  {s s' : ReauditSystem} {row row' : ReceiptAudit}

theorem ReauditStep.rowOrigin (h : ReauditStep sdk pg otherDates Configured action s s')
    (ha : ∀ pass ∈ s.passes, pass.Grounded sdk pg Configured s.db) (hr : row ∈ s'.db.audits.rows) :
    RowOrigin sdk pg otherDates Configured action s.db row := by
  cases h with
  | ingest ev => exact .kept hr
  | recordFact fact => exact .kept hr
  | start => exact .kept hr
  | select => exact .kept hr
  | audit configured stored dates seen recorded =>
    obtain ho | ⟨hf, rfl⟩ := mem_insert.mp hr
    · exact .kept ho
    · exact .recorded rfl configured stored dates seen hf recorded
  | @amend _ i pass candidate rest running next =>
    have hp := ha pass (mem_of_getElem? running)
    dsimp only at hr
    rw [amendNext_audits] at hr
    split at hr
    · exact .kept hr
    next amendment ham =>
    obtain ⟨old, ho, rfl⟩ := mem_modify.mp hr
    obtain heq | ⟨hevi, -, hame, heq⟩ :=
      old.amend_cases pass.tenantId candidate.eventId amendment
    · rw [heq]
      exact .kept ho
    · -- the candidate is of this very row, since an event has one row
      obtain ⟨selected, hs, ev, hev, hc, rfl⟩ :=
        hp.candidates _ next candidate mem_cons_self
      cases eq_of_key_eq ho hs hevi
      rw [heq]
      exact .amended ho hp.configured hp.gate hp.facts hev hc ham hame

/-- The creation time that a re-audit of the row has, if it counts. -/
def ReceiptAudit.createdTime (pg : Timestamptz) (otherDates : String → Option Int)
    (row : ReceiptAudit) : Option Int :=
  (verifiedCreatedAt row.status (row.receiptCreatedAt.map pg.render)).bind (JsDate.parse otherDates)

/-- A row that is not `pre_compromise` has a boundary at or before its creation time. -/
def ReceiptAudit.Severe (pg : Timestamptz) (otherDates : String → Option Int) (row : ReceiptAudit) :
    Prop :=
  ∀ r ∈ row.keyRevocation, r.status ≠ .pre_compromise →
    ∀ t ∈ row.createdTime pg otherDates, r.boundary ≤ 1000 * t

theorem statusAt_ne_pre_compromise {t least : Int}
    (h : statusAt (some t) least ≠ .pre_compromise) : least ≤ t := by
  unfold statusAt at h
  dsimp only at h
  split at h
  · exact absurd rfl h
  · next hl => exact Int.not_lt.mp hl

variable {revocations : List KeyRevocation} {env : ReceiptEnv} {ev : ReceiptEvent} {Rfc3339 : String → Prop}

theorem Revoked.Under.severe {r : Revoked Int}
    (h : r.Under otherDates revocations (row.createdTime pg otherDates))
    (hs : r.status ≠ .pre_compromise) :
    ∀ t ∈ row.createdTime pg otherDates, r.boundary ≤ 1000 * t := by
  intro t ht
  obtain ⟨least, -, hb, heq⟩ := h
  rw [heq, ht] at hs
  have hl := statusAt_ne_pre_compromise hs
  omega

/-! ## Rows that the audit writes -/

/-- The binding accepts a receipt only if its creation time is a timestamp of the protocol. -/
def ChecksCreatedAt (sdk : ReceiptSdk) (Rfc3339 : String → Prop) : Prop :=
  ∀ (receipt : Json) (bodyJson key ctxId echoedHash producerFp : String),
    sdk.verifyReceipt receipt.stringify bodyJson key ctxId echoedHash producerFp = .ok () →
    ∀ text, textOf receipt "created_at" = some text → Rfc3339 text

/-- The database rounds a timestamp to microseconds, where the engine cuts it to milliseconds: the
time that is read back is never the earlier one. -/
def Timestamptz.NotEarlier (pg : Timestamptz) (otherDates : String → Option Int)
    (Rfc3339 : String → Prop) : Prop :=
  ∀ text u t t', Rfc3339 text → pg.read text = .ok u → JsDate.parse otherDates text = some t →
    JsDate.parse otherDates (pg.render u) = some t' → t ≤ t'

theorem exists_of_mapM_eq_some {α β ε : Type} {f : α → Except ε β} {o : Option α} {b : β}
    (h : o.mapM f = .ok (some b)) : ∃ a, o = some a ∧ f a = .ok b := by
  cases o with
  | none => cases h
  | some a =>
    cases hf : f a with
    | error err =>
      rw [Option.mapM_some, hf] at h
      cases h
    | ok b' =>
      rw [Option.mapM_some, hf] at h
      cases h
      exact ⟨a, rfl, hf⟩

theorem auditReceiptEvent_classified {cfg : ReceiptConfig} {revoked : Revoked String}
    (h : (auditReceiptEvent sdk env cfg ev).keyRevocation = some revoked) :
    ∃ base fp?, auditReceipt sdk env ev = .ok (base, fp?) ∧
      withRevocationClassification sdk cfg env.otherDates env.facts ev.toPublishEvent base fp? =
        .ok (auditReceiptEvent sdk env cfg ev) := by
  unfold auditReceiptEvent at h ⊢
  unfold auditReceiptEventInner at h ⊢
  cases ha : auditReceipt sdk env ev with
  | error err =>
    rw [ha] at h
    cases h
  | ok result =>
    obtain ⟨base, fp?⟩ := result
    rw [ha] at h
    dsimp only at h ⊢
    cases hc : withRevocationClassification sdk cfg env.otherDates env.facts
        ev.toPublishEvent base fp? with
    | error err =>
      rw [hc] at h
      cases h
    | ok verdict => exact ⟨base, fp?, rfl, hc⟩

theorem le_createdTime (hchecks : ChecksCreatedAt sdk Rfc3339)
    (hearlier : pg.NotEarlier otherDates Rfc3339)
    {base : BaseVerdict} {fp? : Option String} (ha : auditReceipt sdk env ev = .ok (base, fp?))
    (hdt : env.otherDates = otherDates) (hst : row.status = base.status)
    (hc : base.receiptCreatedAt.mapM pg.read = .ok row.receiptCreatedAt) {t : Int}
    (ht : row.createdTime pg otherDates = some t) :
    ∃ t₀, (verifiedCreatedAt base.status base.receiptCreatedAt).bind (JsDate.parse otherDates) =
      some t₀ ∧ t₀ ≤ t := by
  unfold ReceiptAudit.createdTime verifiedCreatedAt at ht
  rw [hst] at ht
  by_cases hv : base.status.isVerified = true
  · rw [if_pos hv] at ht
    obtain ⟨rendered, hre, hp⟩ := Option.bind_eq_some_iff.mp ht
    obtain ⟨u, hu, rfl⟩ := Option.map_eq_some_iff.mp hre
    rw [hu] at hc
    obtain ⟨text, hte, hr⟩ := exists_of_mapM_eq_some hc
    -- the text is that of a receipt the binding has accepted
    obtain ⟨receipt, body, ctxId, echoedHash, producerFp, registryKey, hch, hs⟩ :=
      fullyChecked_of_auditReceipt ha hv
    rw [hte] at hs
    obtain ⟨hs, hd⟩ := Option.filter_eq_some_iff.mp hs.symm
    obtain ⟨t₀, ht₀⟩ := Option.isSome_iff_exists.mp hd
    rw [hdt] at ht₀
    have hts := hchecks receipt _ _ _ _ _ hch.accepted text
      (truthy_eq_some_iff.mp hs).1
    refine ⟨t₀, ?_, hearlier text u t₀ t hts hr ht₀ hp⟩
    rw [verifiedCreatedAt, if_pos hv, hte]
    exact ht₀
  · rw [if_neg hv] at ht
    cases ht

/-! ## Runs -/

section Assumptions

variable {Rfc3339 : String → Prop}
  (hclassifies : ∀ classify ∈ sdk.classifyUnderRevocation, Classifies classify)
  (hpg : pg.KeepsMillis otherDates) (hchecks : ChecksCreatedAt sdk Rfc3339)
  (hearlier : pg.NotEarlier otherDates Rfc3339)
include hclassifies hpg

theorem under_of_amends {cfg : ReceiptConfig} {tenantId fingerprint : String}
    {all : List KeyRevocation} {ev : ReceiptEvent} {facts : FactTable} {amendment : Revoked Int}
    (hal : all ⊆ facts.findByFingerprint fingerprint tenantId)
    (ha : amendmentFor sdk cfg pg otherDates fingerprint all (candidateOf pg row ev) =
      some amendment) :
    amendment.Under otherDates (filterApplicableRevocations cfg all ev.registryAuthority)
      (row.createdTime pg otherDates) := by
  have hu := under_of_amendmentFor hclassifies hpg
    (fun r hr => FactTable.fingerprint_of_mem (hal hr)) ha
  exact hu

include hchecks hearlier

theorem ReauditStep.severe (h : ReauditStep sdk pg otherDates Configured action s s')
    (ha : ∀ pass ∈ s.passes, pass.Grounded sdk pg Configured s.db)
    (hse : ∀ row ∈ s.db.audits.rows, row.Severe pg otherDates) :
    ∀ row ∈ s'.db.audits.rows, row.Severe pg otherDates := by
  intro row hrow
  cases h.rowOrigin ha hrow with
  | kept old => exact hse row old
  | recorded _ _ _ dates _ _ recorded =>
    intro r hr hs t ht
    obtain ⟨hcr, -, hrv, -, -, hro⟩ := NewReceiptAudit.store_eq_ok recorded
    rw [hr] at hrv
    obtain ⟨revoked, hv, hsto⟩ := exists_of_mapM_eq_some hrv
    obtain ⟨base, fp?, hau, hcl⟩ := auditReceiptEvent_classified hv
    have hb := withRevocationClassification_base hcl
    obtain ⟨table, signer, _, -, -, -, -, -, hc⟩ :=
      classified_of_withRevocationClassification hclassifies hcl hv
    rw [dates] at hc
    obtain ⟨least, -, hbn, heq⟩ := hc.under hpg hsto
    obtain ⟨t₀, ht₀, hl⟩ := le_createdTime hchecks hearlier hau dates
      (hro.trans (congrArg (·.status) hb))
      ((congrArg (·.receiptCreatedAt.mapM pg.read) hb).symm.trans hcr) ht
    rw [heq, ht₀] at hs
    have hl' := statusAt_ne_pre_compromise hs
    omega
  | @amended _ _ _ _ _ old _ _ _ _ facts _ _ amends _ =>
    rintro r ⟨⟩ hs
    exact (under_of_amends hclassifies hpg facts amends).severe hs

theorem ReauditRun.severe (h : ReauditRun sdk pg otherDates Configured history s) :
    ∀ row ∈ s.db.audits.rows, row.Severe pg otherDates := by
  induction h with
  | initial => exact fun _ h => nomatch h
  | step run step ih => exact step.severe hclassifies hpg hchecks hearlier run.grounded ih

end Assumptions

/-- A tighter row that is not `pre_compromise` if the row was not. -/
structure Hardens (row row' : ReceiptAudit) : Prop extends Tightens row row' where
  status : ∀ r ∈ row.keyRevocation, r.status ≠ .pre_compromise →
    ∀ r' ∈ row'.keyRevocation, r'.status ≠ .pre_compromise

theorem Hardens.refl (row : ReceiptAudit) : Hardens row row := by
  refine ⟨.refl row, ?_⟩
  rintro r hr hs r' hr'
  cases hr.symm.trans hr'
  exact hs

theorem Hardens.trans {row'' : ReceiptAudit} (h : Hardens row row') (h' : Hardens row' row'') :
    Hardens row row'' := by
  refine ⟨h.toTightens.trans h'.toTightens, ?_⟩
  intro r hr hs
  obtain ⟨r', hr', -⟩ := h.boundary r hr
  exact h'.status r' hr' (h.status r hr hs r' hr')

theorem hardens_of_amended {amendment : Revoked Int}
    (hs : row.Severe pg otherDates) (ha : row.Amendable amendment.boundary)
    (hu : amendment.Under otherDates revocations (row.createdTime pg otherDates)) :
    Hardens row { row with keyRevocation := some amendment } := by
  refine ⟨⟨rfl, fun r hr => ⟨amendment, rfl, Or.inr (ha r hr)⟩⟩, ?_⟩
  rintro r hr hst r' ⟨⟩ hp
  obtain ⟨least, -, hb, heq⟩ := hu
  have hearlier := ha r hr
  have hcr := hs r hr hst
  rw [hp] at heq
  cases hc : row.createdTime pg otherDates with
  | none =>
    rw [hc] at heq
    cases heq
  | some t =>
    have hl := hcr t hc
    rw [hc] at heq
    unfold statusAt at heq
    dsimp only at heq
    split at heq
    · omega
    · cases heq

theorem ReauditRun.steps (hr : ReauditRun sdk pg otherDates Configured history s)
    (hs : ReauditSteps sdk pg otherDates Configured s s') :
    ∃ history', ReauditRun sdk pg otherDates Configured history' s' := by
  induction hs with
  | refl => exact ⟨history, hr⟩
  | tail _ step ih =>
    obtain ⟨action, step⟩ := step
    obtain ⟨history', hr'⟩ := ih
    exact ⟨action :: history', hr'.step step⟩

section Assumptions

variable {Rfc3339 : String → Prop}
  (hclassifies : ∀ classify ∈ sdk.classifyUnderRevocation, Classifies classify)
  (hpg : pg.KeepsMillis otherDates) (hchecks : ChecksCreatedAt sdk Rfc3339)
  (hearlier : pg.NotEarlier otherDates Rfc3339)
include hclassifies hpg hchecks hearlier

theorem ReauditStep.hardens (h : ReauditStep sdk pg otherDates Configured action s s')
    (hru : ReauditRun sdk pg otherDates Configured history s) (hr : row ∈ s.db.audits.rows) :
    ∃ row' ∈ s'.db.audits.rows, Hardens row row' := by
  obtain ⟨row', hr', ht⟩ := h.extends.audits row hr
  refine ⟨row', hr', ?_⟩
  -- a row with the same event is this row, before or after an amendment
  have hi := ht.eventId
  cases h.rowOrigin hru.grounded hr' with
  | kept old =>
    cases eq_of_key_eq old hr hi
    exact .refl _
  | recorded _ _ _ _ _ fresh _ =>
    exact absurd (mem_map.mpr ⟨row, hr, hi.symm⟩) fresh
  | amended old _ _ facts _ _ amends amendable =>
    cases eq_of_key_eq old hr hi
    exact hardens_of_amended (hru.severe hclassifies hpg hchecks hearlier _ hr) amendable
      (under_of_amends hclassifies hpg facts amends)

theorem ReauditSteps.hardens (hs : ReauditSteps sdk pg otherDates Configured s s')
    (hru : ReauditRun sdk pg otherDates Configured history s) (hr : row ∈ s.db.audits.rows) :
    ∃ row' ∈ s'.db.audits.rows, Hardens row row' := by
  induction hs with
  | refl => exact ⟨row, hr, .refl row⟩
  | tail steps step ih =>
    obtain ⟨action, step⟩ := step
    obtain ⟨row', hr', hh⟩ := ih
    obtain ⟨history', hru'⟩ := hru.steps steps
    obtain ⟨row'', hr'', hh'⟩ :=
      step.hardens hclassifies hpg hchecks hearlier hru' hr'
    exact ⟨row'', hr'', hh.trans hh'⟩

/-- **The severity of a row is monotone.** Along every run, with any number of passes in progress on
facts of any age, a row keeps all columns but those of its classification; a classification stays, or
its boundary moves to the past; and what is not `pre_compromise` does not become it. An amendment that
was made once is never made again from the same facts. -/
theorem revocation_severity (hrun : ReauditRun sdk pg otherDates Configured history s)
    (hsteps : ReauditSteps sdk pg otherDates Configured s s') (hrow : row ∈ s.db.audits.rows) :
    (∃ row' ∈ s'.db.audits.rows, { row' with keyRevocation := row.keyRevocation } = row ∧
      ∀ r ∈ row.keyRevocation, ∃ r' ∈ row'.keyRevocation, (r' = r ∨ r'.boundary < r.boundary) ∧
        (r.status ≠ .pre_compromise → r'.status ≠ .pre_compromise)) ∧
    ∀ cfg tenantId fingerprint all candidate s₁ s₂, candidate.eventId = row.eventId →
      s₁.db.audits = (amendNext sdk cfg pg otherDates tenantId fingerprint all (0, s.db.audits)
        candidate).2 →
      ReauditSteps sdk pg otherDates Configured s₁ s₂ →
      (amendNext sdk cfg pg otherDates tenantId fingerprint all (0, s₂.db.audits) candidate).2 =
        s₂.db.audits := by
  constructor
  · obtain ⟨row', hrow', hh⟩ :=
      hsteps.hardens hclassifies hpg hchecks hearlier hrun hrow
    refine ⟨row', hrow', hh.columns, ?_⟩
    intro r hr
    obtain ⟨r', hr', hle⟩ := hh.boundary r hr
    exact ⟨r', hr', hle, fun hs => hh.status r hr hs r' hr'⟩
  · intro cfg tenantId fingerprint all candidate s₁ s₂ hi ha hl
    have ht := hl.extends.audits
    rw [ha] at ht
    exact amendNext_again hrow hi.symm ht

end Assumptions

end Severity

/-! ## A key that is revoked twice -/

def sampleLeast (elements : List Json) : Option Int :=
  (elements.filterMap fun v =>
    (textOf v "compromised_since").bind (JsDate.parse fun _ => none)).min?

def sampleClassify (revocations : Json) (_signer : String) (createdAt : Option String) :
    Except JsError Json :=
  match revocations with
  | .arr elements =>
    match sampleLeast elements with
    | some least =>
      .ok (.obj [("authorization", .str (if ∃ t ∈ createdAt.bind (JsDate.parse fun _ => none),
          t < least then "historically_authorized_pre_compromise" else "none")),
        ("boundary", .str (JsDate.toISOString least))])
    | none => .ok (.obj [("authorization", .str "none")])
  | _ => .error ⟨"expected an array of revocations"⟩

theorem filterMap_parse_toISOString {times : List Int} (hr : ∀ t ∈ times, JsDate.InRange t) :
    (times.map JsDate.toISOString).filterMap (JsDate.parse fun _ => none) = times := by
  induction times with
  | nil => rfl
  | cons t times ih =>
    obtain ⟨ht, htm⟩ := forall_mem_cons.mp hr
    rw [map_cons, filterMap_cons, JsDate.parse_toISOString _ ht, ih htm]

theorem bind_parse_toISOString {createdAt : Option Int} (hr : ∀ t ∈ createdAt, JsDate.InRange t) :
    (createdAt.map JsDate.toISOString).bind (JsDate.parse fun _ => none) = createdAt := by
  cases createdAt with
  | none => rfl
  | some t =>
    rw [Option.map_some, Option.bind_some]
    exact JsDate.parse_toISOString _ (hr t rfl)

theorem sampleClassify_classifies : Classifies sampleClassify where
  reply := by
    intro revocations times signer createdAt hn ht hr hcr _
    have hl : sampleLeast (revocations.map toRevocationJson) = times.min? := by
      unfold sampleLeast
      rw [filterMap_map]
      have hc : ((fun v : Json => (textOf v "compromised_since").bind
          (JsDate.parse fun _ => none)) ∘ toRevocationJson) =
          (JsDate.parse fun _ => none) ∘ KeyRevocation.compromisedSince := rfl
      rw [hc, ← filterMap_map, ht, filterMap_parse_toISOString hr]
    cases hm : times.min? with
    | none =>
      rw [min?_eq_none_iff.mp hm] at ht
      exact absurd (map_eq_nil_iff.mp ht) hn
    | some least =>
      obtain ⟨hme, hle⟩ := min?_eq_some_iff.mp hm
      refine ⟨[("authorization", .str (if ∃ t ∈ createdAt, t < least then
          "historically_authorized_pre_compromise" else "none")),
        ("boundary", .str (JsDate.toISOString least))], least, ?_, hme, hle, rfl, ?_⟩
      · unfold sampleClassify
        dsimp only
        rw [hl, hm, bind_parse_toISOString hcr]
      · show some (if _ then _ else _) = some _ ↔ _
        split
        · next h => exact iff_of_true rfl h
        · next h => exact iff_of_false (by decide) h

def samplePg : Timestamptz where
  read text :=
    match JsDate.parse (fun _ => none) text with
    | some t => .ok (1000 * t)
    | none => .error ⟨"invalid input for type timestamp with time zone"⟩
  render u := JsDate.toISOString (u / 1000)

theorem samplePg_read {t : Int} (ht : JsDate.InRange t) :
    samplePg.read (JsDate.toISOString t) = .ok (1000 * t) := by
  unfold samplePg
  dsimp only
  rw [JsDate.parse_toISOString _ ht]

theorem samplePg_render (t : Int) : samplePg.render (1000 * t) = JsDate.toISOString t := by
  unfold samplePg
  dsimp only
  rw [Int.mul_ediv_cancel_left t (by decide)]

theorem samplePg_keepsMillis : samplePg.KeepsMillis fun _ => none where
  kept t u ht hu := by
    rw [samplePg_read ht] at hu
    cases hu
    rfl
  accepts t ht := ⟨1000 * t, samplePg_read ht.inRange⟩
  rendered t ht := by
    rw [samplePg_render]
    exact JsDate.parse_toISOString _ ht.inRange

theorem samplePg_notEarlier : samplePg.NotEarlier (fun _ => none) fun _ => True := by
  intro text u t t' _ hr ht ht'
  have hu : samplePg.read text = .ok (1000 * t) := by
    unfold samplePg
    dsimp only
    rw [ht]
  cases hu.symm.trans hr
  rw [samplePg_render, JsDate.parse_toISOString _ (inRange_of_parse ht)] at ht'
  cases ht'
  exact Int.le_refl t

def sampleRevokingSdk : ReceiptSdk :=
  { sampleReceiptSdk "old key" with classifyUnderRevocation := some sampleClassify }

theorem sampleRevokingSdk_classifies :
    ∀ classify ∈ sampleRevokingSdk.classifyUnderRevocation, Classifies classify := by
  rintro classify ⟨⟩
  exact sampleClassify_classifies

def sampleFact (fingerprint ctxId since : String) : KeyRevocation where
  tenantId := "default"
  ctxId := ctxId
  revokedKeyFingerprint := fingerprint
  compromisedSince := since
  revokedKeyController := "did:web:p.example"
  publisher := "did:web:p.example"
  trustClass := .producer_signed
  revokedKeyId := none
  reason := none
  lineageId := "lineage"
  originAuthority := "r.example"
  contextType := "key-revocation"

def sampleShuffle : Shuffle := ⟨id, fun _ => .refl _⟩

def sampleAudited : ReceiptAudit where
  eventId := "event"
  tenantId := "default"
  runId := none
  ctxId := some "acdp://r.example/0b7d9a3e-1c2f-4a5b-8c6d-7e8f9a0b1c2d"
  registryAuthority := "r.example"
  status := .verified
  discrepancies := []
  receiptCreatedAt := some 1781222400000000
  eventArrivedAt := 1781222401000000
  skewMs := some 1000
  keyRevocation := some ⟨.pre_compromise, 1781913600000000, .producer_signed,
    [("acdp://r.example/late", "did:web:p.example")]⟩
  checkedAt := 0

def sampleLateFact : KeyRevocation :=
  sampleFact "sha256:old key" "acdp://r.example/late" "2026-06-20T00:00:00.000Z"

def sampleEarlyFact : KeyRevocation :=
  sampleFact "sha256:old key" "acdp://r.example/early" "2026-06-01T00:00:00.000Z"

def sampleFactsEnv (facts : FactTable) : ReceiptEnv :=
  { sampleReceiptEnv samplePublished "old key" with facts := .ok facts }

def sampleRevisedDb : ReceiptDb where
  events := (KeyedTable.empty _).insert (sampleReceiptEvent "did:web:p.example" "old key")
  audits := (KeyedTable.empty _).insert sampleAudited
  facts := (FactTable.empty.record sampleLateFact).record sampleEarlyFact

def sampleHistory : List ReauditAction :=
  [.recordFact sampleEarlyFact,
    .audit sampleReceiptConfig (sampleFactsEnv (FactTable.empty.record sampleLateFact))
      (sampleReceiptEvent "did:web:p.example" "old key"),
    .recordFact sampleLateFact, .ingest (sampleReceiptEvent "did:web:p.example" "old key")]

theorem sample_run {first second : KeyRevocation} {row : ReceiptAudit}
    (hr : (toReceiptRow (sampleReceiptEvent "did:web:p.example" "old key")
      (auditReceiptEvent sampleRevokingSdk (sampleFactsEnv (FactTable.empty.record first))
        sampleReceiptConfig (sampleReceiptEvent "did:web:p.example" "old key"))).store samplePg 0 = .ok row) :
    ReauditRun sampleRevokingSdk samplePg (fun _ => none) (· = sampleReceiptConfig)
      [.recordFact second,
        .audit sampleReceiptConfig (sampleFactsEnv (FactTable.empty.record first))
          (sampleReceiptEvent "did:web:p.example" "old key"),
        .recordFact first, .ingest (sampleReceiptEvent "did:web:p.example" "old key")]
      ⟨⟨(KeyedTable.empty _).insert (sampleReceiptEvent "did:web:p.example" "old key"),
        (KeyedTable.empty _).insert row, (FactTable.empty.record first).record second⟩, []⟩ := by
  have h0 : ReauditRun sampleRevokingSdk samplePg (fun _ => none) (· = sampleReceiptConfig) []
    .initial := .initial
  have h1 := h0.step (.ingest (sampleReceiptEvent "did:web:p.example" "old key"))
  have h2 := h1.step (.recordFact first)
  have h3 := h2.step (.audit rfl (mem_insert.mpr (Or.inr ⟨not_mem_nil, rfl⟩)) rfl
    (by
      rintro facts ⟨⟩
      exact Subset.refl _) hr)
  exact h3.step (.recordFact second)

theorem sampleRevisedDb_run :
    ReauditRun sampleRevokingSdk samplePg (fun _ => none) (· = sampleReceiptConfig) sampleHistory
      ⟨sampleRevisedDb, []⟩ :=
  sample_run (by decide +kernel)

/-- The audit of the event, before and after a pass with the second revocation. -/
theorem revocation_severity_sample :
    ∃ amended db passes,
      reauditForFingerprint sampleRevokingSdk sampleReceiptConfig samplePg (fun _ => none)
        sampleShuffle "default" "sha256:old key" sampleRevisedDb = .ok (amended, db) ∧
      ReauditSteps sampleRevokingSdk samplePg (fun _ => none) (· = sampleReceiptConfig)
        ⟨sampleRevisedDb, []⟩ ⟨db, passes⟩ ∧
      ∃ row ∈ db.audits.rows, { row with keyRevocation := sampleAudited.keyRevocation } =
        sampleAudited ∧ ∃ r ∈ row.keyRevocation, r.boundary ≤ 1781913600000000 := by
  have ho : (reauditForFingerprint sampleRevokingSdk sampleReceiptConfig samplePg (fun _ => none)
      sampleShuffle "default" "sha256:old key" sampleRevisedDb).isOk = true := by
    decide
  cases hpa : reauditForFingerprint sampleRevokingSdk sampleReceiptConfig samplePg
      (fun _ => none) sampleShuffle "default" "sha256:old key" sampleRevisedDb with
  | error err =>
    rw [hpa] at ho
    cases ho
  | ok result =>
    obtain ⟨amended, db⟩ := result
    have hp : ∃ passes, PassSteps sampleRevokingSdk samplePg (fun _ => none)
        (· = sampleReceiptConfig) ⟨sampleRevisedDb, []⟩ ⟨db, passes⟩ :=
      reauditForFingerprint_steps rfl hpa
    obtain ⟨passes, hp⟩ := hp
    have hs := hp.steps
    obtain ⟨⟨row, hro, hc, hcl⟩, -⟩ := revocation_severity
      sampleRevokingSdk_classifies samplePg_keepsMillis (fun _ _ _ _ _ _ _ _ _ => trivial)
      samplePg_notEarlier sampleRevisedDb_run hs (mem_insert.mpr (Or.inr ⟨not_mem_nil, rfl⟩))
    obtain ⟨r, hr, hl, -⟩ := hcl _ rfl
    refine ⟨amended, db, passes, rfl, hs, row, hro, hc, r, hr, ?_⟩
    obtain rfl | hlt := hl
    · exact Int.le_refl _
    · exact Int.le_of_lt hlt

end AcdpControlPlane
