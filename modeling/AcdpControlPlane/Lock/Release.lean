import AcdpControlPlane.Lock.Sweep

/-!
# The release of the advisory lock

`advisoryUnlock` runs on any idle connection of the pool and does not read the reply of
`pg_advisory_unlock`. On a connection other than the one that took the lock the statement succeeds
and releases nothing, so the sweep ends and its level stays.
-/

namespace AcdpControlPlane

open AdvisoryLock

section Release

variable {Replica Conn : Type} [DecidableEq Replica] [DecidableEq Conn]

def SweepEvent.Succeeds : SweepEvent Replica Conn → Prop
  | .tick _ _ fault => fault = .none
  | .finish _ => True
  | .release _ _ fault => fault = .none

def SweepState.Idle (s : SweepState Replica Conn) : Prop := s.running = [] ∧ s.releasing = []

def Misses : SweepEvent Replica Conn × SweepState Replica Conn → Prop
  | (.release _ conn _, s) => s.lock.owner ≠ some conn
  | _ => False

instance : (entry : SweepEvent Replica Conn × SweepState Replica Conn) → Decidable (Misses entry)
  | (.release _ conn _, s) => inferInstanceAs (Decidable (s.lock.owner ≠ some conn))
  | (.tick _ _ _, _) => inferInstanceAs (Decidable False)
  | (.finish _, _) => inferInstanceAs (Decidable False)

def SweepState.inProgress (s : SweepState Replica Conn) : ℕ := s.running.length + s.releasing.length

variable {pool : Conn → Replica} {event : SweepEvent Replica Conn} {s s' : SweepState Replica Conn}
  {history : List (SweepEvent Replica Conn × SweepState Replica Conn)}

theorem level_step (hs : SweepStep pool event s s') (hok : event.Succeeds) :
    s'.lock.level + s.inProgress =
      s.lock.level + s'.inProgress + (if Misses (event, s) then 1 else 0) := by
  cases hs with
  | tick conn fault =>
    cases hok
    rw [if_neg (by exact not_false)]
    dsimp only [tryAdvisoryLock, SweepState.inProgress]
    -- a try that fails starts no sweep, and one that succeeds adds a level
    cases ha : (s.lock.tryLock conn).1 with
    | false =>
      rw [SessionLock.tryLock_snd_of_false ha]
      rfl
    | true =>
      obtain ⟨hl, -⟩ := SessionLock.level_tryLock ha
      dsimp only [List.length_cons]
      omega
  | finish replica mem =>
    rw [if_neg (by exact not_false)]
    have hc : (s.running.erase replica).length + 1 = s.running.length :=
      List.length_erase_add_one mem
    dsimp only [SweepState.inProgress, List.length_cons]
    omega
  | release conn fault mem =>
    cases hok
    have hc : (s.releasing.erase (pool conn)).length + 1 = s.releasing.length :=
      List.length_erase_add_one mem
    dsimp only [advisoryUnlock, SweepState.inProgress]
    -- only the owner gives a level back
    by_cases ho : s.lock.owner = some conn
    · have hl := SessionLock.level_unlock_of_owner ho
      rw [if_neg (fun hm => hm ho)]
      omega
    · have hm : Misses (SweepEvent.release (pool conn) conn Fault.none, s) := ho
      rw [SessionLock.unlock_of_owner_ne ho, if_pos hm]
      omega

theorem level_of_run (hr : SweepRun pool history s) (ho : ∀ entry ∈ history, entry.1.Succeeds) :
    s.lock.level = s.inProgress + history.countP (fun entry => decide (Misses entry)) := by
  induction hr with
  | start => rfl
  | @step history s s' event run step ih =>
    obtain ⟨hev, ho⟩ := List.forall_mem_cons.mp ho
    have hs := level_step step hev
    have hl := ih ho
    rw [List.countP_cons]
    simp only [decide_eq_true_eq]
    omega

/-- In every run whose statements succeed, whatever the number of replicas and connections: between
sweeps no session holds the lock, and a try on any connection takes it, exactly if every release so
far was run on the connection that held the lock. -/
theorem sweeps_release_iff (hrun : SweepRun pool history s)
    (hok : ∀ entry ∈ history, entry.1.Succeeds) (hidle : s.Idle) :
    (s.lock.owner = none ∧ ∀ conn, (tryAdvisoryLock .none conn s.lock).1 = .ok true) ↔
      ∀ entry ∈ history, ¬ Misses entry := by
  have hl := level_of_run hrun hok
  have hn : s.inProgress = 0 := by
    unfold SweepState.inProgress
    rw [hidle.1, hidle.2]
    rfl
  rw [hn, Nat.zero_add] at hl
  -- with no sweep in progress, the level counts the releases that missed
  have hc : s.lock.level = 0 ↔ ∀ entry ∈ history, ¬ Misses entry := by
    rw [hl, List.countP_eq_zero]
    simp
  rw [← hc]
  constructor
  · rintro ⟨ho, -⟩
    exact SessionLock.owner_eq_none_iff.mp ho
  · intro hf
    refine ⟨SessionLock.owner_eq_none_iff.mpr hf, ?_⟩
    intro conn
    exact congrArg Except.ok (SessionLock.tryLock_fst_iff.mpr (Or.inl hf))

end Release

/-- A replica with two connections that locks and releases on the same one, twice. -/
theorem sweeps_release_iff_sameConnection :
    ∃ history : List (SweepEvent Unit Bool × SweepState Unit Bool),
      SweepRun (fun _ => ()) history ⟨.free, [], []⟩ ∧ history.length = 6 ∧
        ((SessionLock.free : SessionLock Bool).owner = none ∧
          ∀ conn, (tryAdvisoryLock .none conn (SessionLock.free : SessionLock Bool)).1 = .ok true) := by
  have h0 : SweepRun (fun _ : Bool => ()) [] ⟨.free, [], []⟩ := .start
  have h1 := h0.step (.tick false .none)
  have h2 := h1.step (.finish () (List.mem_singleton.mpr rfl))
  have h3 := h2.step (.release false .none (List.mem_singleton.mpr rfl))
  have h4 := h3.step (.tick true .none)
  have h5 := h4.step (.finish () (List.mem_singleton.mpr rfl))
  have h6 := h5.step (.release true .none (List.mem_singleton.mpr rfl))
  refine ⟨_, h6, rfl, (sweeps_release_iff h6 ?_ ⟨rfl, rfl⟩).mpr ?_⟩
  · simp [SweepEvent.Succeeds]
  · simp [Misses, tryAdvisoryLock, advisoryUnlock, SessionLock.tryLock, SessionLock.unlock,
      SessionLock.owner]

/-- A replica with two connections that locks on one and releases on the other: its sweep is over, the
first connection holds the lock, and a try on the second fails. -/
theorem sweeps_leak :
    ∃ history : List (SweepEvent Unit Bool × SweepState Unit Bool),
      SweepRun (fun _ => ()) history ⟨.held false 0, [], []⟩ ∧
        (∀ entry ∈ history, entry.1.Succeeds) ∧
        (⟨.held false 0, [], []⟩ : SweepState Unit Bool).Idle ∧
        (SessionLock.held false 0).owner = some false ∧
        (tryAdvisoryLock .none true (SessionLock.held false 0)).1 = .ok false := by
  have h0 : SweepRun (fun _ : Bool => ()) [] ⟨.free, [], []⟩ := .start
  have h1 := h0.step (.tick false .none)
  have h2 := h1.step (.finish () (List.mem_singleton.mpr rfl))
  have h3 := h2.step (.release true .none (List.mem_singleton.mpr rfl))
  refine ⟨_, h3, ?_, ⟨rfl, rfl⟩, rfl, rfl⟩
  simp [SweepEvent.Succeeds]

end AcdpControlPlane
