import AcdpControlPlane.Ingest.Store

/-!
# The lifecycle of a context under any delivery

Retracts and republishes of a context arrive in any order and any number of times. `applyTransition`
(`src/storage/context-lifecycle.repository.ts`) moves the row of the context only to a transition that is
not older than the last one it moved to, so the row follows those transitions that nothing newer was
delivered before.
-/

namespace AcdpControlPlane

open List

/-! ## One row -/

namespace LifecycleTransitionInput

def key (input : LifecycleTransitionInput) : String × String := (input.tenantId, input.ctxId)

def onRow (input : LifecycleTransitionInput) (row : Option ContextLifecycle) : ContextLifecycle :=
  (row.map input.moveRow).getD input.newRow

end LifecycleTransitionInput

def rowAfter (inputs : List LifecycleTransitionInput) : Option ContextLifecycle :=
  inputs.foldl (fun row input => some (input.onRow row)) none

theorem rowAfter_concat (inputs : List LifecycleTransitionInput) (input : LifecycleTransitionInput) :
    rowAfter (inputs ++ [input]) = some (input.onRow (rowAfter inputs)) := by
  unfold rowAfter
  rw [foldl_append]
  rfl

theorem find?_foldl_applyTransition (inputs : List LifecycleTransitionInput)
    (rows : KeyedTable ContextLifecycle.key) (tenantId ctxId : String) :
    (inputs.foldl (fun rows input => applyTransition input rows) rows).find? (tenantId, ctxId) =
      (inputs.filter (·.key = (tenantId, ctxId))).foldl (fun row input => some (input.onRow row))
        (rows.find? (tenantId, ctxId)) := by
  induction inputs generalizing rows with
  | nil => rfl
  | cons input inputs ih =>
    rw [foldl_cons, ih, find?_applyTransition]
    by_cases hk : input.key = (tenantId, ctxId)
    · obtain ⟨rfl, rfl⟩ := Prod.mk.inj hk
      rw [filter_cons_of_pos (by simpa using hk), if_pos ⟨rfl, rfl⟩]
      rfl
    · rw [filter_cons_of_neg (by simpa using hk), if_neg]
      rintro ⟨rfl, rfl⟩
      exact hk rfl

/-! ## The current state -/

structure ContextLifecycle.Current (row : ContextLifecycle) (input : LifecycleTransitionInput) : Prop where
  retracted : row.retracted = input.retracted
  lastEventAt : row.lastEventAt = input.eventAt
  actor : row.actor = input.actor
  reason : row.reason = input.reason

def Newest (inputs : List LifecycleTransitionInput) (input : LifecycleTransitionInput) : Prop :=
  input ∈ inputs ∧ ∀ other ∈ inputs, other.eventAt ≤ input.eventAt

theorem current_newRow (input : LifecycleTransitionInput) : input.newRow.Current input :=
  ⟨rfl, rfl, rfl, rfl⟩

variable {input last : LifecycleTransitionInput} {inputs : List LifecycleTransitionInput}

theorem current_moveRow {row : ContextLifecycle}
    (h : row.lastEventAt ≤ input.eventAt) : (input.moveRow row).Current input := by
  unfold LifecycleTransitionInput.moveRow
  rw [if_pos h]
  exact ⟨rfl, rfl, rfl, rfl⟩

theorem current_rowAfter (hn : inputs ≠ []) :
    ∃ row input, rowAfter inputs = some row ∧ Newest inputs input ∧ row.Current input := by
  induction inputs using reverseRecOn with
  | nil => exact absurd rfl hn
  | append_singleton inputs input ih =>
    refine ⟨input.onRow (rowAfter inputs), ?_⟩
    rw [rowAfter_concat]
    by_cases hi : inputs = []
    · subst hi
      refine ⟨input, rfl, ?_, current_newRow input⟩
      simp [Newest]
    obtain ⟨row, newest, hr, ⟨hme, hl⟩, hc⟩ := ih hi
    have hla := hc.lastEventAt
    rw [hr]
    by_cases hm : row.lastEventAt ≤ input.eventAt
    · refine ⟨input, rfl, ⟨by simp, ?_⟩, current_moveRow hm⟩
      intro other ho
      rcases mem_append.mp ho with ho | ho
      · have := hl other ho
        omega
      · rw [mem_singleton.mp ho]
    · refine ⟨newest, rfl, ⟨mem_append_left _ hme, ?_⟩, ?_⟩
      · intro other ho
        rcases mem_append.mp ho with ho | ho
        · exact hl other ho
        · rw [mem_singleton.mp ho]
          omega
      · -- the guard of the update fails, and the row stays
        have hs : input.onRow (some row) = row := if_neg hm
        rw [hs]
        exact hc

theorem Newest.unique {input' : LifecycleTransitionInput}
    (hd : ∀ a ∈ inputs, ∀ b ∈ inputs, a.eventAt = b.eventAt → a = b)
    (h : Newest inputs input) (h' : Newest inputs input') : input = input' := by
  apply hd input h.1 input' h'.1
  have hl := h'.2 input h.1
  have hg := h.2 input' h'.1
  omega

/-- **The current state is that of the newest transition**, for every delivery of a set of transitions
among those of other contexts. -/
theorem lifecycle_converges (transitions : Finset LifecycleTransitionInput)
    (inputs : List LifecycleTransitionInput) (rows : KeyedTable ContextLifecycle.key)
    (tenantId ctxId : String)
    (hdistinct : ∀ a ∈ transitions, ∀ b ∈ transitions, a.eventAt = b.eventAt → a = b)
    (hinputs : ∀ input, input ∈ inputs ∧ input.key = (tenantId, ctxId) ↔ input ∈ transitions)
    (hnew : rows.find? (tenantId, ctxId) = none) (latest : LifecycleTransitionInput)
    (hlatest : latest ∈ transitions) (hmax : ∀ other ∈ transitions, other.eventAt ≤ latest.eventAt) :
    ∃ row, (inputs.foldl (fun rows input => applyTransition input rows) rows).find? (tenantId, ctxId) =
        some row ∧
      row.retracted = latest.retracted ∧ row.lastEventAt = latest.eventAt ∧
      row.actor = latest.actor ∧ row.reason = latest.reason := by
  have ho : ∀ input, input ∈ inputs.filter (·.key = (tenantId, ctxId)) ↔ input ∈ transitions := by
    intro input
    rw [mem_filter, decide_eq_true_iff, hinputs]
  have hn : Newest (inputs.filter (·.key = (tenantId, ctxId))) latest :=
    ⟨(ho latest).mpr hlatest, fun other hot => hmax other ((ho other).mp hot)⟩
  obtain ⟨row, input, hr, hi, hc⟩ := current_rowAfter (ne_nil_of_mem hn.1)
  have hs : input = latest := hi.unique
    (fun a ha b hb => hdistinct a ((ho a).mp ha) b ((ho b).mp hb)) hn
  subst hs
  refine ⟨row, ?_, hc.retracted, hc.lastEventAt, hc.actor, hc.reason⟩
  rw [find?_foldl_applyTransition, hnew]
  exact hr

/-! A retract that is overtaken by a republish, delivered twice. -/

def sampleTransition (retracted : Bool) (eventAt : Int) : LifecycleTransitionInput :=
  ⟨"c", "t", none, retracted, eventAt, some "did:a", none⟩

theorem lifecycle_converges_overtaken :
    ∃ row, ([sampleTransition false 2, sampleTransition true 1, sampleTransition true 1].foldl
        (fun rows input => applyTransition input rows) (.empty _)).find? ("t", "c") = some row ∧
      row.retracted = false ∧ row.lastEventAt = 2 ∧ row.actor = some "did:a" ∧ row.reason = none :=
  lifecycle_converges {sampleTransition false 2, sampleTransition true 1} _ _ "t" "c" (by decide)
    (by
      intro input
      constructor
      · rintro ⟨hm, -⟩
        simpa using hm
      · intro hm
        rcases Finset.mem_insert.mp hm with rfl | hm
        · decide
        · rw [Finset.mem_singleton.mp hm]
          decide)
    rfl (sampleTransition false 2) (by decide) (by decide)

/-! ## The last of each kind -/

def ContextLifecycle.lastOfKind (retracted : Bool) (row : ContextLifecycle) : Option Int :=
  if retracted then row.retractedAt else row.republishedAt

/-- When a transition was first delivered, no newer one had been. -/
def OnTime (inputs : List LifecycleTransitionInput) (input : LifecycleTransitionInput) : Prop :=
  ∃ before after, inputs = before ++ input :: after ∧ ∀ other ∈ before, other.eventAt ≤ input.eventAt

def onTimeOfKind (retracted : Bool) (inputs : List LifecycleTransitionInput) : Set Int :=
  {t | ∃ input, OnTime inputs input ∧ input.retracted = retracted ∧ input.eventAt = t}

theorem OnTime.mem (h : OnTime inputs input) : input ∈ inputs := by
  obtain ⟨before, after, rfl, _⟩ := h
  simp

theorem onTime_concat :
    OnTime (inputs ++ [last]) input ↔
      OnTime inputs input ∨ input = last ∧ ∀ other ∈ inputs, other.eventAt ≤ last.eventAt := by
  constructor
  · rintro ⟨before, after, hs, hb⟩
    rcases eq_nil_or_concat after with rfl | ⟨after, final, rfl⟩
    · obtain ⟨rfl, hl⟩ := append_inj' hs rfl
      obtain rfl : last = input := by simpa using hl
      exact Or.inr ⟨rfl, hb⟩
    · rw [concat_eq_append, ← cons_append, ← append_assoc] at hs
      obtain ⟨rfl, _⟩ := append_inj' hs rfl
      exact Or.inl ⟨before, after, rfl, hb⟩
  · rintro (⟨before, after, rfl, hb⟩ | ⟨rfl, ha⟩)
    · exact ⟨before, after ++ [last], by simp, hb⟩
    · exact ⟨inputs, [], rfl, ha⟩

variable {retracted : Bool} {inputs : List LifecycleTransitionInput}

theorem onTimeOfKind_concat_of_late {newer : LifecycleTransitionInput} (hn : newer ∈ inputs)
    (hl : last.eventAt < newer.eventAt) :
    onTimeOfKind retracted (inputs ++ [last]) = onTimeOfKind retracted inputs := by
  ext t
  constructor
  · rintro ⟨input, hi, hk, ht⟩
    rcases onTime_concat.mp hi with hi | ⟨rfl, ha⟩
    · exact ⟨input, hi, hk, ht⟩
    · exact absurd (ha newer hn) (by omega)
  · rintro ⟨input, hi, hk, ht⟩
    exact ⟨input, onTime_concat.mpr (Or.inl hi), hk, ht⟩

theorem onTimeOfKind_concat_of_ne (hk : last.retracted ≠ retracted) :
    onTimeOfKind retracted (inputs ++ [last]) = onTimeOfKind retracted inputs := by
  ext t
  constructor
  · rintro ⟨input, hi, hs, ht⟩
    rcases onTime_concat.mp hi with hi | ⟨rfl, _⟩
    · exact ⟨input, hi, hs, ht⟩
    · exact absurd hs hk
  · rintro ⟨input, hi, hs, ht⟩
    exact ⟨input, onTime_concat.mpr (Or.inl hi), hs, ht⟩

theorem isGreatest_onTimeOfKind_concat (ha : ∀ other ∈ inputs, other.eventAt ≤ last.eventAt) :
    IsGreatest (onTimeOfKind last.retracted (inputs ++ [last])) last.eventAt := by
  refine ⟨⟨last, onTime_concat.mpr (Or.inr ⟨rfl, ha⟩), rfl, rfl⟩, ?_⟩
  rintro _ ⟨input, hi, _, rfl⟩
  rcases onTime_concat.mp hi with hi | ⟨rfl, _⟩
  · exact ha input hi.mem
  · exact le_rfl

theorem lastOfKind_newRow (input : LifecycleTransitionInput) :
    input.newRow.lastOfKind retracted = if input.retracted = retracted then some input.eventAt else none := by
  unfold ContextLifecycle.lastOfKind LifecycleTransitionInput.newRow
  cases retracted <;> cases input.retracted <;> rfl

theorem lastOfKind_moveRow {row : ContextLifecycle} (h : row.lastEventAt ≤ input.eventAt) :
    (input.moveRow row).lastOfKind retracted =
      if input.retracted = retracted then some input.eventAt else row.lastOfKind retracted := by
  unfold ContextLifecycle.lastOfKind LifecycleTransitionInput.moveRow
  rw [if_pos h]
  cases retracted <;> cases input.retracted <;> rfl

theorem lastOfKind_rowAfter {t : Int} :
    (rowAfter inputs).bind (·.lastOfKind retracted) = some t ↔
      IsGreatest (onTimeOfKind retracted inputs) t := by
  -- by induction on the deliveries, the latest last
  induction inputs using reverseRecOn generalizing t with
  | nil =>
    refine ⟨nofun, ?_⟩
    rintro ⟨⟨input, hin, _⟩, _⟩
    exact absurd hin.mem not_mem_nil
  | append_singleton inputs last ih =>
    rw [rowAfter_concat, Option.bind_some]
    -- what the row becomes when it moves
    have hmvd : ∀ old : Option Int, (∀ other ∈ inputs, other.eventAt ≤ last.eventAt) →
        (∀ t, old = some t ↔ IsGreatest (onTimeOfKind retracted inputs) t) →
        ((if last.retracted = retracted then some last.eventAt else old) = some t ↔
          IsGreatest (onTimeOfKind retracted (inputs ++ [last])) t) := by
      intro old ha ho
      by_cases hk : last.retracted = retracted
      · subst hk
        rw [if_pos rfl, Option.some.injEq]
        have hg := isGreatest_onTimeOfKind_concat ha
        constructor
        · rintro rfl
          exact hg
        · exact hg.unique
      · rw [if_neg hk, onTimeOfKind_concat_of_ne hk]
        exact ho t
    by_cases hi : inputs = []
    · subst hi
      have hf := hmvd none (fun _ h => absurd h not_mem_nil) fun t => ih
      rw [← lastOfKind_newRow] at hf
      exact hf
    obtain ⟨row, newest, hr, ⟨hme, hl⟩, hc⟩ := current_rowAfter hi
    have hla := hc.lastEventAt
    rw [hr] at ih ⊢
    by_cases hmv : row.lastEventAt ≤ last.eventAt
    · have ha : ∀ other ∈ inputs, other.eventAt ≤ last.eventAt := fun other hot => by
        have := hl other hot
        omega
      have hm := hmvd (row.lastOfKind retracted) ha fun t => ih
      rw [← lastOfKind_moveRow hmv] at hm
      exact hm
    · have hs : last.onRow (some row) = row := if_neg hmv
      rw [hs, onTimeOfKind_concat_of_late hme (by omega)]
      exact ih

def newestOfKind (retracted : Bool) (inputs : List LifecycleTransitionInput) : Option Int :=
  ((inputs.filter (·.retracted = retracted)).map (·.eventAt)).max?

theorem newestOfKind_eq_some {t : Int} :
    newestOfKind retracted inputs = some t ↔
      (∃ input ∈ inputs, input.retracted = retracted ∧ input.eventAt = t) ∧
        ∀ input ∈ inputs, input.retracted = retracted → input.eventAt ≤ t := by
  unfold newestOfKind
  rw [max?_eq_some_iff]
  constructor
  · rintro ⟨hm, hl⟩
    obtain ⟨input, hi, rfl⟩ := mem_map.mp hm
    obtain ⟨hi, hk⟩ := mem_filter.mp hi
    refine ⟨⟨input, hi, of_decide_eq_true hk, rfl⟩, ?_⟩
    intro other ho hs
    exact hl _ (mem_map_of_mem (mem_filter.mpr ⟨ho, decide_eq_true hs⟩))
  · rintro ⟨⟨input, hi, hk, rfl⟩, hl⟩
    refine ⟨mem_map_of_mem (mem_filter.mpr ⟨hi, decide_eq_true hk⟩), ?_⟩
    intro t ht
    obtain ⟨other, ho, rfl⟩ := mem_map.mp ht
    obtain ⟨ho, hs⟩ := mem_filter.mp ho
    exact hl other ho (of_decide_eq_true hs)

theorem exists_newest_of_kind (hi : input ∈ inputs) :
    ∃ newest ∈ inputs, newest.retracted = input.retracted ∧
      ∀ other ∈ inputs, other.retracted = input.retracted → other.eventAt ≤ newest.eventAt := by
  cases hm : newestOfKind input.retracted inputs with
  | none =>
    have hni := map_eq_nil_iff.mp (max?_eq_none_iff.mp hm)
    exact absurd (decide_eq_true rfl) (filter_eq_nil_iff.mp hni input hi)
  | some t =>
    obtain ⟨⟨newest, hn, hk, rfl⟩, hl⟩ := newestOfKind_eq_some.mp hm
    exact ⟨newest, hn, hk, hl⟩

/-- **The columns hold the last of each kind exactly when the last of each kind is on time.** -/
theorem last_of_each_kind_iff (inputs : List LifecycleTransitionInput)
    (rows : KeyedTable ContextLifecycle.key) (tenantId ctxId : String)
    (hcontext : ∀ input ∈ inputs, input.key = (tenantId, ctxId))
    (hdistinct : ∀ a ∈ inputs, ∀ b ∈ inputs, a.eventAt = b.eventAt → a = b)
    (hnew : rows.find? (tenantId, ctxId) = none) :
    (∀ retracted,
      ((inputs.foldl (fun rows input => applyTransition input rows) rows).find? (tenantId, ctxId)).bind
        (·.lastOfKind retracted) = newestOfKind retracted inputs) ↔
      ∀ input ∈ inputs, (∀ other ∈ inputs, other.retracted = input.retracted →
        other.eventAt ≤ input.eventAt) → OnTime inputs input := by
  have hf : inputs.filter (·.key = (tenantId, ctxId)) = inputs :=
    filter_eq_self.mpr fun input hi => decide_eq_true (hcontext input hi)
  rw [find?_foldl_applyTransition, hf, hnew]
  change (∀ retracted, (rowAfter inputs).bind (·.lastOfKind retracted) = newestOfKind retracted inputs) ↔ _
  constructor
  · intro hco input hi hnewe
    have hc := (hco input.retracted).trans
      (newestOfKind_eq_some.mpr ⟨⟨input, hi, rfl, rfl⟩, hnewe⟩)
    obtain ⟨⟨input', ho, _, ht⟩, _⟩ := lastOfKind_rowAfter.mp hc
    rwa [hdistinct input' ho.mem input hi ht] at ho
  · intro ho retracted
    ext t
    rw [lastOfKind_rowAfter, newestOfKind_eq_some]
    constructor
    · rintro ⟨⟨input, hi, hk, rfl⟩, hg⟩
      refine ⟨⟨input, hi.mem, hk, rfl⟩, ?_⟩
      intro other hot hs
      -- the newest of this kind is on time, and the column is no older
      obtain ⟨newest, hm, hn, hnewe⟩ := exists_newest_of_kind hi.mem
      have hne := ho newest hm fun other hot hs =>
        hnewe other hot (hs.trans hn)
      have hc := hg ⟨newest, hne, hn.trans hk, rfl⟩
      exact (hnewe other hot (hs.trans hk.symm)).trans hc
    · rintro ⟨⟨input, hi, rfl, rfl⟩, hl⟩
      refine ⟨⟨input, ho input hi hl, rfl, rfl⟩, ?_⟩
      rintro _ ⟨other, hot, hs, rfl⟩
      exact hl other hot.mem hs

/-- A retract and a republish, in this order. -/
theorem last_of_each_kind_in_order :
    (([sampleTransition true 1, sampleTransition false 2].foldl
        (fun rows input => applyTransition input rows) (.empty _)).find? ("t", "c")).bind
          (·.lastOfKind true) = some 1 ∧
      (([sampleTransition true 1, sampleTransition false 2].foldl
        (fun rows input => applyTransition input rows) (.empty _)).find? ("t", "c")).bind
          (·.lastOfKind false) = some 2 := by
  have hc := (last_of_each_kind_iff [sampleTransition true 1, sampleTransition false 2] (.empty _) "t" "c"
    (by decide) (by decide) rfl).mpr (by
      intro input hi _
      rcases mem_cons.mp hi with rfl | hi
      · exact ⟨[], _, rfl, fun _ h => absurd h not_mem_nil⟩
      · rw [mem_singleton.mp hi]
        exact ⟨[sampleTransition true 1], [], rfl, by decide⟩)
  exact ⟨(hc true).trans (by decide), (hc false).trans (by decide)⟩

/-- A retract that is overtaken is not recorded. -/
theorem last_of_each_kind_overtaken :
    (([sampleTransition false 2, sampleTransition true 1].foldl
        (fun rows input => applyTransition input rows) (.empty _)).find? ("t", "c")).bind
          (·.lastOfKind true) = none ∧
      newestOfKind true [sampleTransition false 2, sampleTransition true 1] = some 1 := by
  decide

end AcdpControlPlane
