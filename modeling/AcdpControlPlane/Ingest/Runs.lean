import AcdpControlPlane.Common.Trace
import AcdpControlPlane.Ingest.Store

/-!
# Concurrent updates of a run

A run is written by the events that name it (`upsertFromEvent` of `src/storage/run.repository.ts`) and by
the notification of its start (`recordStart`). Both read the row first and then insert or update it, in two
statements and without a transaction. Calls overlap: between the two statements of one call, others may
write. The columns that no statement reads (`started_at`, `inputs`, `updated_at`) are left out.
-/

namespace AcdpControlPlane

/-- A call of `upsertFromEvent` or `recordStart`. -/
inductive RunCall where
  | upsertFromEvent (scenarioId registryAuthority : String)
  | recordStart (scenarioId : String)
deriving DecidableEq, Repr

/-- The update of `recordStart`. -/
def startRun (tenantId runId scenarioId : String) (runs : KeyedTable RunRow.key) :
    Except JsError Unit × KeyedTable RunRow.key :=
  (.ok (), runs.modify
    (fun run => if run.key = (tenantId, runId) then { run with scenarioId } else run)
    (by
      intro run
      split <;> rfl))

namespace RunCall

def newRow (tenantId runId : String) : RunCall → RunRow
  | .upsertFromEvent scenarioId registryAuthority =>
    { tenantId, runId, scenarioId, status := .running, contextsCount := 1
      registries := addRegistry [] registryAuthority }
  | .recordStart scenarioId =>
    { tenantId, runId, scenarioId, status := .running, contextsCount := 0, registries := [] }

/-- The second statement of a call, which depends on the row that the first has read. -/
def write (tenantId runId : String) (call : RunCall) (existing : Option RunRow)
    (runs : KeyedTable RunRow.key) : Except JsError Unit × KeyedTable RunRow.key :=
  match existing with
  | none => insertRun (call.newRow tenantId runId) runs
  | some current =>
    match call with
    | .upsertFromEvent _ registryAuthority =>
      updateRun tenantId runId (addRegistry current.registries registryAuthority) runs
    | .recordStart scenarioId => startRun tenantId runId scenarioId runs

def onRow (tenantId runId : String) (call : RunCall) : Option RunRow → RunRow
  | none => call.newRow tenantId runId
  | some row =>
    match call with
    | .upsertFromEvent _ registryAuthority =>
      { row with
        contextsCount := row.contextsCount + 1
        registries := addRegistry row.registries registryAuthority }
    | .recordStart scenarioId => { row with scenarioId }

def isEvent : RunCall → Bool
  | .upsertFromEvent _ _ => true
  | .recordStart _ => false

def authority? : RunCall → Option String
  | .upsertFromEvent _ registryAuthority => some registryAuthority
  | .recordStart _ => none

def started? : RunCall → Option String
  | .upsertFromEvent _ _ => none
  | .recordStart scenarioId => some scenarioId

end RunCall

/-! ## Overlapping calls -/

/-- The table, the calls that have read and not yet written, and what became of the others. -/
structure RunMachine where
  runs : KeyedTable RunRow.key
  waiting : List (RunCall × Option RunRow)
  returned : List RunCall
  failures : List JsError

inductive RunEvent where
  | read (call : RunCall)
  | write (i : ℕ)
deriving DecidableEq, Repr

section Machine

variable (tenantId runId : String)

def RunMachine.next (m : RunMachine) : RunEvent → Option RunMachine
  | .read call => some { m with waiting := m.waiting ++ [(call, m.runs.find? (tenantId, runId))] }
  | .write i =>
    m.waiting[i]?.map fun waiting =>
      match waiting.1.write tenantId runId waiting.2 m.runs with
      | (.ok (), runs) =>
        { m with runs, waiting := m.waiting.eraseIdx i, returned := m.returned ++ [waiting.1] }
      | (.error e, runs) =>
        { m with runs, waiting := m.waiting.eraseIdx i, failures := m.failures ++ [e] }

abbrev RunReaches (runs : KeyedTable RunRow.key) (history : List (RunEvent × RunMachine))
    (m : RunMachine) : Prop :=
  TracedRun (fun event m m' => RunMachine.next tenantId runId m event = some m') ⟨runs, [], [], []⟩
    history m

/-- A call that writes has read a row with the registries that it has now, or no row where there is none.
The update of `recordStart` does not depend on what was read. -/
def UpToDate (m : RunMachine) : RunEvent → Prop
  | .read _ => True
  | .write i => ∀ waiting ∈ m.waiting[i]?,
    (m.runs.find? (tenantId, runId)).isSome = waiting.2.isSome ∧
      (waiting.1.isEvent = true →
        (m.runs.find? (tenantId, runId)).map RunRow.registries = waiting.2.map RunRow.registries)

instance (m : RunMachine) (event : RunEvent) : Decidable (UpToDate tenantId runId m event) :=
  match event with
  | .read _ => isTrue trivial
  | .write i => inferInstanceAs (Decidable (∀ waiting ∈ m.waiting[i]?, _))

end Machine

def begun (history : List (RunEvent × RunMachine)) : List RunCall :=
  history.filterMap fun
    | (.read call, _) => some call
    | (.write _, _) => none

structure Accounts (calls : List RunCall) (row : RunRow) : Prop where
  contextsCount : row.contextsCount = calls.countP RunCall.isEvent
  nodup : row.registries.Nodup
  registries : ∀ authority,
    authority ∈ row.registries ↔ authority ≠ "" ∧ ∃ call ∈ calls, call.authority? = some authority
  scenarioId : (∃ call ∈ calls, call.started?.isSome) → ∃ call ∈ calls, call.started? = some row.scenarioId

/-! ## What a write preserves -/

theorem mem_addRegistry {registries : List String} {registryAuthority authority : String} :
    authority ∈ addRegistry registries registryAuthority ↔
      authority ∈ registries ∨ authority = registryAuthority ∧ registryAuthority ≠ "" := by
  unfold addRegistry
  split
  · next hk =>
    refine ⟨Or.inl, ?_⟩
    rintro (hm | ⟨rfl, hn⟩)
    · exact hm
    · exact hk.resolve_left hn
  · next ha =>
    have hn : registryAuthority ≠ "" := fun h => ha (Or.inl h)
    simp [hn]

theorem nodup_addRegistry {registries : List String} {registryAuthority : String}
    (h : registries.Nodup) : (addRegistry registries registryAuthority).Nodup := by
  unfold addRegistry
  split
  · exact h
  · next ha =>
    refine h.append (List.nodup_singleton _) (List.disjoint_singleton.mpr ?_)
    exact fun hm => ha (Or.inr hm)

section Write

variable {tenantId runId : String} {calls : List RunCall} {call : RunCall} {row : RunRow}
  {runs : KeyedTable RunRow.key} {existing : Option RunRow}

theorem exists_mem_concat {P : RunCall → Prop} :
    (∃ c ∈ calls ++ [call], P c) ↔ (∃ c ∈ calls, P c) ∨ P call := by
  simp [or_and_right, exists_or]

theorem accounts_nil (h : row.contextsCount = 0) (hr : row.registries = []) : Accounts [] row := by
  refine ⟨h, hr ▸ List.nodup_nil, ?_, ?_⟩
  · simp [hr]
  · simp

theorem Accounts.onRow (h : Accounts calls row) :
    Accounts (calls ++ [call]) (call.onRow tenantId runId (some row)) := by
  cases call with
  | upsertFromEvent scenarioId registryAuthority =>
    refine ⟨?_, nodup_addRegistry h.nodup, ?_, ?_⟩
    · simp [RunCall.onRow, RunCall.isEvent, h.contextsCount]
    · intro authority
      rw [RunCall.onRow, mem_addRegistry, h.registries, exists_mem_concat, RunCall.authority?,
        Option.some.injEq]
      constructor
      · rintro (⟨hn, hc⟩ | ⟨rfl, hn⟩)
        · exact ⟨hn, Or.inl hc⟩
        · exact ⟨hn, Or.inr rfl⟩
      · rintro ⟨hn, hc | rfl⟩
        · exact Or.inl ⟨hn, hc⟩
        · exact Or.inr ⟨rfl, hn⟩
    · -- an event does not write the scenario
      rw [exists_mem_concat, exists_mem_concat]
      rintro (hs | hev)
      · exact Or.inl (h.scenarioId hs)
      · cases hev
  | recordStart scenarioId =>
    refine ⟨?_, h.nodup, ?_, ?_⟩
    · simp [RunCall.onRow, RunCall.isEvent, h.contextsCount]
    · intro authority
      rw [RunCall.onRow, h.registries, exists_mem_concat]
      simp [RunCall.authority?]
    · rw [exists_mem_concat, exists_mem_concat]
      exact fun _ => Or.inr rfl

def AccountsFor (tenantId runId : String) (calls : List RunCall) (runs : KeyedTable RunRow.key) : Prop :=
  match runs.find? (tenantId, runId) with
  | none => calls = []
  | some row => Accounts calls row

theorem find?_key {k : String × String} (h : runs.find? k = some row) : row.key = k :=
  (KeyedTable.find?_eq_some_iff.mp h).2

theorem write_upToDate (hr : (runs.find? (tenantId, runId)).isSome = existing.isSome)
    (hre : call.isEvent = true →
      (runs.find? (tenantId, runId)).map RunRow.registries = existing.map RunRow.registries) :
    ∃ runs', call.write tenantId runId existing runs = (.ok (), runs') ∧
      runs'.find? (tenantId, runId) = some (call.onRow tenantId runId (runs.find? (tenantId, runId))) := by
  cases hf : runs.find? (tenantId, runId) with
  | none =>
    rw [hf] at hr
    obtain rfl : existing = none := by simpa using hr.symm
    have hk : (call.newRow tenantId runId).key = (tenantId, runId) := by cases call <;> rfl
    have hfr : (call.newRow tenantId runId).key ∉ runs.rows.map RunRow.key := by
      rw [hk]
      exact KeyedTable.find?_eq_none_iff.mp hf
    refine ⟨runs.insert (call.newRow tenantId runId), if_neg hfr, ?_⟩
    rw [KeyedTable.find?_insert hfr, if_pos hk]
    rfl
  | some row =>
    rw [hf] at hr hre
    obtain ⟨current, rfl⟩ := Option.isSome_iff_exists.mp hr.symm
    have hk := find?_key hf
    cases call with
    | upsertFromEvent scenarioId registryAuthority =>
      obtain hs : row.registries = current.registries := by simpa using hre rfl
      refine ⟨_, rfl, ?_⟩
      rw [KeyedTable.find?_modify, hf, Option.map_some, if_pos hk, ← hs]
      rfl
    | recordStart scenarioId =>
      refine ⟨_, rfl, ?_⟩
      rw [KeyedTable.find?_modify, hf, Option.map_some, if_pos hk]
      rfl

theorem accounts_write (h : AccountsFor tenantId runId calls runs)
    (hr : (runs.find? (tenantId, runId)).isSome = existing.isSome) (hre : call.isEvent = true →
      (runs.find? (tenantId, runId)).map RunRow.registries = existing.map RunRow.registries) :
    ∃ runs', call.write tenantId runId existing runs = (.ok (), runs') ∧
      AccountsFor tenantId runId (calls ++ [call]) runs' := by
  obtain ⟨runs', hw, hfn⟩ := write_upToDate hr hre
  refine ⟨runs', hw, ?_⟩
  unfold AccountsFor at h ⊢
  rw [hfn]
  cases hf : runs.find? (tenantId, runId) with
  | none =>
    rw [hf] at h
    obtain rfl : calls = [] := h
    -- it writes what it would have made of a row that accounts for nothing
    cases call with
    | upsertFromEvent scenarioId registryAuthority =>
      have hem : Accounts [] ⟨tenantId, runId, scenarioId, .running, 0, []⟩ := accounts_nil rfl rfl
      exact @Accounts.onRow tenantId runId [] (.upsertFromEvent scenarioId registryAuthority) _ hem
    | recordStart scenarioId =>
      have hem : Accounts [] ⟨tenantId, runId, scenarioId, .running, 0, []⟩ := accounts_nil rfl rfl
      exact @Accounts.onRow tenantId runId [] (.recordStart scenarioId) _ hem
  | some row =>
    rw [hf] at h
    exact Accounts.onRow h

/-! ## Runs of the calls -/

variable {history : List (RunEvent × RunMachine)} {m : RunMachine}

/-- What is known of a machine all of whose writes were up to date. -/
structure NothingLost (tenantId runId : String) (history : List (RunEvent × RunMachine))
    (m : RunMachine) : Prop where
  failures : m.failures = []
  accounts : AccountsFor tenantId runId m.returned m.runs
  begun : (m.returned ++ m.waiting.map Prod.fst).Perm (begun history)

theorem NothingLost.next {m' : RunMachine} {event : RunEvent} (h : NothingLost tenantId runId history m)
    (hs : m.next tenantId runId event = some m') (hd : UpToDate tenantId runId m event) :
    NothingLost tenantId runId ((event, m) :: history) m' := by
  cases event with
  | read call =>
    cases hs
    refine ⟨h.failures, h.accounts, ?_⟩
    rw [List.map_append, List.map_singleton, ← List.append_assoc]
    exact (List.perm_append_singleton call _).trans (h.begun.cons call)
  | write i =>
    obtain ⟨⟨call, existing⟩, hw, hm'⟩ := Option.map_eq_some_iff.mp hs
    obtain ⟨hr, hre⟩ := hd (call, existing) hw
    obtain ⟨runs', hwr, ha⟩ := accounts_write h.accounts hr hre
    rw [hwr] at hm'
    subst hm'
    refine ⟨h.failures, ha, ?_⟩
    -- the call has moved from those that wait to those that returned
    obtain ⟨hl, hen⟩ := List.getElem?_eq_some_iff.mp hw
    have hm : (call :: (m.waiting.eraseIdx i).map Prod.fst).Perm (m.waiting.map Prod.fst) := by
      have hp := (List.getElem_cons_eraseIdx_perm hl).map Prod.fst
      rwa [hen] at hp
    rw [List.append_assoc]
    exact (hm.append_left m.returned).trans h.begun

/-- **Calls that write what they have read lose nothing.** However they overlap, none fails; when all have
returned, the row accounts for every one of them. -/
theorem run_updates_accounted (hnew : runs.find? (tenantId, runId) = none)
    (hrun : RunReaches tenantId runId runs history m)
    (hdate : ∀ entry ∈ history, UpToDate tenantId runId entry.2 entry.1) :
    m.failures = [] ∧
      (m.waiting = [] → begun history ≠ [] →
        ∃ row, m.runs.find? (tenantId, runId) = some row ∧
          row.contextsCount = (begun history).countP RunCall.isEvent ∧
          row.registries.Nodup ∧
          (∀ authority, authority ∈ row.registries ↔
            authority ≠ "" ∧ ∃ call ∈ begun history, call.authority? = some authority) ∧
          ((∃ call ∈ begun history, call.started?.isSome) →
            ∃ call ∈ begun history, call.started? = some row.scenarioId)) := by
  have hn : NothingLost tenantId runId history m := by
    induction hrun with
    | start =>
      refine ⟨rfl, ?_, List.Perm.nil⟩
      unfold AccountsFor
      rw [hnew]
    | step run next ih =>
      exact (ih fun entry hen => hdate entry (List.mem_cons_of_mem _ hen)).next next
        (hdate _ List.mem_cons_self)
  refine ⟨hn.failures, ?_⟩
  intro hw hb
  have hp := hn.begun
  rw [hw, List.map_nil, List.append_nil] at hp
  have ha := hn.accounts
  unfold AccountsFor at ha
  cases hf : m.runs.find? (tenantId, runId) with
  | none =>
    rw [hf] at ha
    have hni : m.returned = [] := ha
    rw [hni] at hp
    exact absurd hp.symm.eq_nil hb
  | some row =>
    rw [hf] at ha
    refine ⟨row, rfl, ?_, ha.nodup, ?_, ?_⟩
    · exact ha.contextsCount.trans (hp.countP_eq _)
    · intro authority
      rw [ha.registries]
      simp only [hp.mem_iff]
    · have hs := ha.scenarioId
      simpa only [hp.mem_iff] using hs

end Write

/-! Two registries report events of a run that is started. -/

def runAfter (events : List RunEvent) : Option (List (RunEvent × RunMachine) × RunMachine) :=
  replay (RunMachine.next "t" "r") events [] ⟨.empty _, [], [], []⟩

theorem runReaches_of_runAfter {events : List RunEvent} (h : (runAfter events).isSome) :
    RunReaches "t" "r" (.empty _) ((runAfter events).get h).1 ((runAfter events).get h).2 := by
  have hr : replay (RunMachine.next "t" "r") events [] ⟨.empty _, [], [], []⟩ =
      some ((runAfter events).get h) := (Option.some_get h).symm
  exact TracedRun.start.replay hr

/-- One call after the other, except that two starts overlap. -/
def serialRun : List (RunEvent × RunMachine) × RunMachine :=
  (runAfter [.read (.upsertFromEvent "unknown" "a"), .write 0, .read (.recordStart "s"),
    .read (.recordStart "s'"), .write 1, .write 0, .read (.upsertFromEvent "unknown" "b"),
    .write 0]).get (by decide)

theorem run_updates_serial :
    serialRun.2.failures = [] ∧
      ∃ row, serialRun.2.runs.find? ("t", "r") = some row ∧ row.contextsCount = 2 ∧
        row.registries.Nodup := by
  have hem : (KeyedTable.empty RunRow.key).find? ("t", "r") = none := rfl
  obtain ⟨hf, hr⟩ := run_updates_accounted hem
    (runReaches_of_runAfter (by decide) : RunReaches "t" "r" (.empty _) serialRun.1 serialRun.2)
    (by decide)
  obtain ⟨row, hfi, hc, hn, _⟩ := hr rfl (by decide)
  exact ⟨hf, row, hfi, hc, hn⟩

/-- Two events are reported at the same time: after the first event of the run, and before it. -/
theorem run_updates_overlap :
    (∃ h, ((runAfter [.read (.upsertFromEvent "unknown" "a"), .write 0,
        .read (.upsertFromEvent "unknown" "b"), .read (.upsertFromEvent "unknown" "c"), .write 0,
        .write 0]).get h).2.runs.rows.map RunRow.registries = [["a", "c"]]) ∧
      ∃ h, ((runAfter [.read (.upsertFromEvent "unknown" "a"), .read (.upsertFromEvent "unknown" "b"),
        .write 0, .write 0]).get h).2.failures ≠ [] :=
  ⟨⟨by decide, by decide⟩, by decide, by decide⟩

end AcdpControlPlane
