import AcdpControlPlane.Common.Js

/-!
# Registry enrollments

The table of enrolled registries and its one write, the upsert of
`src/storage/registry-enrollment.repository.ts`. The authority is the primary key, and the tenant
of an authority is never rewritten.
-/

namespace AcdpControlPlane

open List

def DEFAULT_TENANT_ID : String := "default"

structure RegistryEnrollment where
  authority : String
  tenantId : String
  baseUrl : Option String
  registryDid : Option String
  webhookSecret : Option String
  enabled : Bool
  createdAt : String
  updatedAt : String
deriving DecidableEq, Repr

/-- The upsert input. A nullable field is omitted (`none`), cleared (`some none`) or set. -/
structure EnrollRegistryInput where
  authority : String
  tenantId : Option String
  baseUrl : Option (Option String)
  registryDid : Option (Option String)
  webhookSecret : Option (Option String)
  enabled : Option Bool
deriving DecidableEq, Repr

def EnrollRegistryInput.newRow (input : EnrollRegistryInput) (now : String) :
    RegistryEnrollment where
  authority := input.authority
  tenantId := input.tenantId.getD DEFAULT_TENANT_ID
  baseUrl := input.baseUrl.getD none
  registryDid := input.registryDid.getD none
  webhookSecret := input.webhookSecret.getD none
  enabled := input.enabled.getD true
  createdAt := now
  updatedAt := now

/-- The row after the update set of a re-enroll: an omitted field keeps its value. -/
def buildEnrollmentUpdateSet (input : EnrollRegistryInput) (now : String)
    (row : RegistryEnrollment) : RegistryEnrollment :=
  { row with
    baseUrl := input.baseUrl.getD row.baseUrl
    registryDid := input.registryDid.getD row.registryDid
    webhookSecret := input.webhookSecret.getD row.webhookSecret
    enabled := input.enabled.getD row.enabled
    updatedAt := now }

structure EnrollmentTable where
  rows : List RegistryEnrollment
  nodup : (rows.map RegistryEnrollment.authority).Nodup

namespace EnrollmentTable

def empty : EnrollmentTable := ⟨[], List.nodup_nil⟩

def findByAuthority (table : EnrollmentTable) (authority : String) : Option RegistryEnrollment :=
  table.rows.find? (·.authority = authority)

def listAllEnabled (table : EnrollmentTable) : List RegistryEnrollment :=
  (table.rows.filter (·.enabled)).insertionSort fun a b => a.authority ≤ b.authority

/-- Rewrite the row of an authority under the tenant; other rows stay. -/
def patchRow (input : EnrollRegistryInput) (now : String) (row : RegistryEnrollment) :
    RegistryEnrollment :=
  if row.authority = input.authority ∧ row.tenantId = input.tenantId.getD DEFAULT_TENANT_ID then
    buildEnrollmentUpdateSet input now row
  else row

@[simp] theorem patchRow_authority (input : EnrollRegistryInput) (now : String)
    (row : RegistryEnrollment) : (patchRow input now row).authority = row.authority := by
  unfold patchRow
  split <;> rfl

@[simp] theorem patchRow_tenantId (input : EnrollRegistryInput) (now : String)
    (row : RegistryEnrollment) : (patchRow input now row).tenantId = row.tenantId := by
  unfold patchRow
  split <;> rfl

/-- The statement `INSERT … ON CONFLICT (authority) DO UPDATE … WHERE tenant_id = excluded.tenant_id`:
the written row, or nothing when the authority belongs to another tenant. -/
def upsert (table : EnrollmentTable) (input : EnrollRegistryInput) (now : String) :
    Option RegistryEnrollment × EnrollmentTable :=
  if hnew : input.authority ∈ table.rows.map RegistryEnrollment.authority then
    let patched : EnrollmentTable :=
      ⟨table.rows.map (patchRow input now), by
        simpa [Function.comp_def] using table.nodup⟩
    (patched.rows.find? fun row =>
      row.authority = input.authority ∧ row.tenantId = input.tenantId.getD DEFAULT_TENANT_ID,
      patched)
  else
    let row := input.newRow now
    (some row, ⟨row :: table.rows, List.nodup_cons.mpr ⟨hnew, table.nodup⟩⟩)

def Bound (table : EnrollmentTable) (authority tenantId : String) : Prop :=
  ∃ row ∈ table.rows, row.authority = authority ∧ row.tenantId = tenantId

variable {table : EnrollmentTable}

theorem Bound.unique {authority t t' : String}
    (h : table.Bound authority t) (h' : table.Bound authority t') : t = t' := by
  obtain ⟨row, hr, rfl, rfl⟩ := h
  obtain ⟨row', hr', ha, rfl⟩ := h'
  rw [inj_on_of_nodup_map table.nodup hr' hr ha]

theorem bound_of_mem_listAllEnabled {row : RegistryEnrollment}
    (hr : row ∈ table.listAllEnabled) : table.Bound row.authority row.tenantId := by
  have hm := (perm_insertionSort _ _).mem_iff.mp hr
  exact ⟨row, (mem_filter.mp hm).1, rfl, rfl⟩

theorem upsert_tenant {authority tenantId : String}
    (input : EnrollRegistryInput) (now : String) (h : table.Bound authority tenantId) :
    (table.upsert input now).2.Bound authority tenantId := by
  obtain ⟨row, hr, rfl, rfl⟩ := h
  unfold upsert
  split
  · exact ⟨patchRow input now row, mem_map_of_mem hr, by simp, by simp⟩
  · exact ⟨row, mem_cons_of_mem _ hr, rfl, rfl⟩

/-! ## Histories of upserts -/

/-- The calls of `upsert`, each with the time it was made. -/
abbrev EnrollCalls := List (EnrollRegistryInput × String)

variable {table : EnrollmentTable} {input : EnrollRegistryInput} {now authority tenantId : String}
  {α : Type} {row : RegistryEnrollment}

def tenantOf (input : EnrollRegistryInput) : String := input.tenantId.getD DEFAULT_TENANT_ID

def after (calls : EnrollCalls) : EnrollmentTable :=
  calls.foldl (fun table call => (table.upsert call.1 call.2).2) empty

def lastSet (field : EnrollRegistryInput → Option α) (default : α) (calls : EnrollCalls) : α :=
  (calls.filterMap fun call => field call.1).getLast?.getD default

theorem lastSet_snoc (field : EnrollRegistryInput → Option α) (default : α) (calls : EnrollCalls)
    (call : EnrollRegistryInput × String) :
    lastSet field default (calls ++ [call]) = (field call.1).getD (lastSet field default calls) := by
  unfold lastSet
  cases h : field call.1 <;> simp [h]

theorem mem_of_findByAuthority (h : table.findByAuthority authority = some row) :
    row ∈ table.rows ∧ row.authority = authority :=
  ⟨mem_of_find?_eq_some h, by simpa using find?_some h⟩

theorem findByAuthority_upsert (table : EnrollmentTable) (input : EnrollRegistryInput)
    (now authority : String) :
    (table.upsert input now).2.findByAuthority authority =
      match table.findByAuthority authority with
      | some row => some (patchRow input now row)
      | none => if input.authority = authority then some (input.newRow now) else none := by
  unfold upsert findByAuthority
  split
  · next ho =>
    simp only [find?_map, Function.comp_def, patchRow_authority]
    cases hr : table.rows.find? (·.authority = authority) with
    | some row => rfl
    | none =>
      -- an authority that is not found is not the one that is patched
      obtain ⟨row, hm, ha⟩ := mem_map.mp ho
      have hne : input.authority ≠ authority := by
        have := find?_eq_none.mp hr row hm
        simpa [ha] using this
      simp [hne]
  · next hnew =>
    rw [find?_cons]
    by_cases hs : input.authority = authority
    · subst hs
      have hn : table.rows.find? (·.authority = input.authority) = none := by
        rw [find?_eq_none]
        intro row hm ha
        exact hnew (mem_map.mpr ⟨row, hm, of_decide_eq_true ha⟩)
      simp [EnrollRegistryInput.newRow, hn]
    · simp only [EnrollRegistryInput.newRow, hs, decide_false, if_false]
      cases hr : table.rows.find? (·.authority = authority) with
      | none => rfl
      | some row =>
        have ha : row.authority ≠ input.authority :=
          fun h => hs (h.symm.trans (mem_of_findByAuthority hr).2)
        simp [patchRow, ha]

theorem upsert_of_other (hr : table.findByAuthority input.authority = some row)
    (ht : tenantOf input ≠ row.tenantId) : table.upsert input now = (none, table) := by
  obtain ⟨hm, ha⟩ := mem_of_findByAuthority hr
  -- the one row of the authority has another tenant
  have ho : ∀ row' ∈ table.rows, row'.authority = input.authority → row'.tenantId ≠ tenantOf input := by
    intro row' hm' ha' hs
    have := inj_on_of_nodup_map table.nodup hm' hm (ha'.trans ha.symm)
    exact ht (this ▸ hs).symm
  have hs : table.rows.map (patchRow input now) = table.rows := by
    conv_rhs => rw [← map_id table.rows]
    refine map_congr_left fun row' hm' => if_neg ?_
    exact fun h => ho row' hm' h.1 h.2
  unfold upsert
  rw [dif_pos (mem_map.mpr ⟨row, hm, ha⟩)]
  simp only [hs]
  refine Prod.ext (find?_eq_none.mpr fun row' hm' h => ?_) rfl
  have := of_decide_eq_true h
  exact ho row' hm' this.1 this.2

/-- The row of an authority, after its first call and further ones. -/
structure Enrolled (first : EnrollRegistryInput × String) (calls : EnrollCalls)
    (row : RegistryEnrollment) : Prop where
  tenantId : row.tenantId = tenantOf first.1
  createdAt : row.createdAt = first.2
  baseUrl : row.baseUrl = lastSet (·.baseUrl) none calls
  registryDid : row.registryDid = lastSet (·.registryDid) none calls
  webhookSecret : row.webhookSecret = lastSet (·.webhookSecret) none calls
  enabled : row.enabled = lastSet (·.enabled) true calls

def callsFor (authority tenantId : String) (calls : EnrollCalls) : EnrollCalls :=
  calls.filter fun call => call.1.authority = authority ∧ tenantOf call.1 = tenantId

theorem callsFor_snoc (calls : EnrollCalls) (call : EnrollRegistryInput × String) :
    callsFor authority tenantId (calls ++ [call]) =
      if call.1.authority = authority ∧ tenantOf call.1 = tenantId then
        callsFor authority tenantId calls ++ [call]
      else callsFor authority tenantId calls := by
  unfold callsFor
  split <;> simp [*]

theorem Enrolled.update {first : EnrollRegistryInput × String} {calls : EnrollCalls}
    (h : Enrolled first calls row) (call : EnrollRegistryInput × String) :
    Enrolled first (calls ++ [call]) (buildEnrollmentUpdateSet call.1 call.2 row) where
  tenantId := h.tenantId
  createdAt := h.createdAt
  baseUrl := by rw [lastSet_snoc, ← h.baseUrl]; rfl
  registryDid := by rw [lastSet_snoc, ← h.registryDid]; rfl
  webhookSecret := by rw [lastSet_snoc, ← h.webhookSecret]; rfl
  enabled := by rw [lastSet_snoc, ← h.enabled]; rfl

theorem enrolled_newRow (call : EnrollRegistryInput × String) :
    Enrolled call [call] (call.1.newRow call.2) := by
  have h : Enrolled call [] ⟨call.1.authority, tenantOf call.1, none, none, none, true, call.2, call.2⟩ :=
    ⟨rfl, rfl, rfl, rfl, rfl, rfl⟩
  exact h.update call

theorem Enrolled.patchRow {first : EnrollRegistryInput × String} {calls : EnrollCalls}
    (h : Enrolled first (callsFor authority (tenantOf first.1) calls) row)
    (ha : row.authority = authority) (call : EnrollRegistryInput × String) :
    Enrolled first (callsFor authority (tenantOf first.1) (calls ++ [call]))
      (patchRow call.1 call.2 row) := by
  have hi : (row.authority = call.1.authority ∧
      row.tenantId = call.1.tenantId.getD DEFAULT_TENANT_ID) ↔
        call.1.authority = authority ∧ tenantOf call.1 = tenantOf first.1 := by
    rw [ha, h.tenantId, eq_comm, @eq_comm _ (tenantOf first.1)]
    rfl
  rw [callsFor_snoc, EnrollmentTable.patchRow]
  simp only [hi]
  split
  · exact h.update call
  · exact h

/-- **What re-enrolls leave.** The first call for an authority settles its tenant and its time of
creation. Each other field is what the last call of that tenant set explicitly, or the default. Calls for
another tenant return null and change nothing. -/
theorem enrolled_after (calls : EnrollCalls) (authority : String) :
    match calls.find? (·.1.authority = authority) with
    | none => (after calls).findByAuthority authority = none
    | some first => ∃ row, (after calls).findByAuthority authority = some row ∧
        Enrolled first (callsFor authority (tenantOf first.1) calls) row ∧
        ∀ input now, input.authority = authority → tenantOf input ≠ tenantOf first.1 →
          (after calls).upsert input now = (none, after calls) := by
  induction calls using reverseRecOn with
  | nil => rfl
  | append_singleton calls call ih =>
    have hl : after (calls ++ [call]) = ((after calls).upsert call.1 call.2).2 := by
      simp [after]
    have hf := findByAuthority_upsert (after calls) call.1 call.2 authority
    rw [← hl] at hf
    -- it is enough to know the row: a call for another tenant leaves it
    have hre : ∀ {first row}, (after (calls ++ [call])).findByAuthority authority = some row →
        row.tenantId = tenantOf first → ∀ input now, input.authority = authority →
          tenantOf input ≠ tenantOf first →
            (after (calls ++ [call])).upsert input now = (none, after (calls ++ [call])) := by
      rintro first row hr ht input now rfl hne
      exact upsert_of_other hr (ht ▸ hne)
    rw [find?_append]
    cases ho : calls.find? (·.1.authority = authority) with
    | some first =>
      rw [ho] at ih
      obtain ⟨row, hr, hen, -⟩ := ih
      rw [hr] at hf
      have hen' := hen.patchRow (mem_of_findByAuthority hr).2 call
      exact ⟨_, hf, hen', hre hf hen'.tenantId⟩
    | none =>
      rw [ho] at ih
      rw [ih] at hf
      by_cases ha : call.1.authority = authority
      · -- the first call for the authority
        have hn : callsFor authority (tenantOf call.1) calls = [] := by
          refine filter_eq_nil_iff.mpr fun call' hm h => ?_
          exact find?_eq_none.mp ho call' hm (decide_eq_true (of_decide_eq_true h).1)
        rw [if_pos ha] at hf
        simp only [Option.none_or, find?_singleton, ha, decide_true, if_true]
        refine ⟨_, hf, ?_, hre hf rfl⟩
        rw [callsFor_snoc, if_pos ⟨ha, rfl⟩, hn]
        exact enrolled_newRow call
      · simpa [ha] using hf

end EnrollmentTable

end AcdpControlPlane
