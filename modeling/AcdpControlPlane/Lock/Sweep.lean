import AcdpControlPlane.Lock.Session
import AcdpControlPlane.Witness.Store

/-!
# Sweeps under an advisory lock

Every sweep of the control plane starts with `tryAdvisoryLock` and ends, in a `finally`, with
`advisoryUnlock` (`src/db/database.service.ts`). Both are statements on the pool of the replica, and
the pool runs a statement on whichever of its connections is idle. The lock belongs to the connection
on which it was taken, not to the sweep.
-/

namespace AcdpControlPlane

open AdvisoryLock List

/-! ## The statements -/

section Statements

variable {Conn : Type} [DecidableEq Conn]

/-- Run `pg_try_advisory_lock` on a connection: the reply, or the thrown error. -/
def tryAdvisoryLock (fault : Fault) (conn : Conn) (lock : SessionLock Conn) :
    Except JsError Bool × SessionLock Conn :=
  match fault with
  | .none => (.ok (lock.tryLock conn).1, (lock.tryLock conn).2)
  | .lost => (.error databaseError, lock)
  | .unacknowledged => (.error databaseError, (lock.tryLock conn).2)

/-- Run `pg_advisory_unlock` on a connection. Its reply is not read. -/
def advisoryUnlock (fault : Fault) (conn : Conn) (lock : SessionLock Conn) :
    Except JsError Unit × SessionLock Conn :=
  match fault with
  | .none => (.ok (), (lock.unlock conn).2)
  | .lost => (.error databaseError, lock)
  | .unacknowledged => (.error databaseError, (lock.unlock conn).2)

end Statements

/-! ## Sweeps -/

/-- The lock of one key, and the sweeps on it, by their replicas: those between a `tryAdvisoryLock`
that returned true and their `finally`, and those that are in it. -/
structure SweepState (Replica Conn : Type) where
  lock : SessionLock Conn
  running : List Replica
  releasing : List Replica

/-- What may happen: a tick tries the lock, a sweep reaches its `finally`, and releases. -/
inductive SweepEvent (Replica Conn : Type) where
  | tick (replica : Replica) (conn : Conn) (fault : Fault)
  | finish (replica : Replica)
  | release (replica : Replica) (conn : Conn) (fault : Fault)

section Sweeps

variable {Replica Conn : Type} [DecidableEq Replica] [DecidableEq Conn]

/-- One event. A statement of a replica runs on some connection of its pool. -/
inductive SweepStep (pool : Conn → Replica) :
    SweepEvent Replica Conn → SweepState Replica Conn → SweepState Replica Conn → Prop where
  | tick {s : SweepState Replica Conn} (conn : Conn) (fault : Fault) :
      SweepStep pool (.tick (pool conn) conn fault) s
        { s with
          lock := (tryAdvisoryLock fault conn s.lock).2
          running := match (tryAdvisoryLock fault conn s.lock).1 with
            | .ok true => pool conn :: s.running
            | _ => s.running }
  | finish {s : SweepState Replica Conn} (replica : Replica) (mem : replica ∈ s.running) :
      SweepStep pool (.finish replica) s
        { s with running := s.running.erase replica, releasing := replica :: s.releasing }
  | release {s : SweepState Replica Conn} (conn : Conn) (fault : Fault)
      (mem : pool conn ∈ s.releasing) :
      SweepStep pool (.release (pool conn) conn fault) s
        { s with
          lock := (advisoryUnlock fault conn s.lock).2
          releasing := s.releasing.erase (pool conn) }

/-- A run with its history, the latest event first, each with the state it happened in. -/
inductive SweepRun (pool : Conn → Replica) :
    List (SweepEvent Replica Conn × SweepState Replica Conn) → SweepState Replica Conn → Prop where
  | start : SweepRun pool [] ⟨.free, [], []⟩
  | step {history : List (SweepEvent Replica Conn × SweepState Replica Conn)}
      {s s' : SweepState Replica Conn} {event : SweepEvent Replica Conn}
      (run : SweepRun pool history s) (step : SweepStep pool event s s') :
      SweepRun pool ((event, s) :: history) s'

def SweepState.Exclusive (s : SweepState Replica Conn) : Prop := s.running.length ≤ 1

/-- The lock is tried on the connection that holds it, while a sweep runs. -/
def Reenters : SweepEvent Replica Conn × SweepState Replica Conn → Prop
  | (.tick _ conn .none, s) => s.lock.owner = some conn ∧ s.running ≠ []
  | _ => False

/-- The lock has a level for every sweep that has not released, and while there is such a sweep, the
lock is on a connection of its replica. -/
structure SweepState.Backed (pool : Conn → Replica) (s : SweepState Replica Conn) : Prop where
  level : s.running.length + s.releasing.length ≤ s.lock.level
  owner : ∀ conn, s.lock.owner = some conn → ∀ replica ∈ s.running, replica = pool conn

variable {pool : Conn → Replica} {event : SweepEvent Replica Conn} {s s' : SweepState Replica Conn}
  {history : List (SweepEvent Replica Conn × SweepState Replica Conn)}

omit [DecidableEq Replica] [DecidableEq Conn] in
theorem SweepState.Backed.running_eq_nil (h : s.Backed pool) (hf : s.lock.level = 0) :
    s.running = [] := by
  have hl := h.level
  rw [hf] at hl
  exact length_eq_zero_iff.mp (Nat.eq_zero_of_add_eq_zero_right (Nat.le_zero.mp hl))

omit [DecidableEq Replica] in
theorem SweepState.Backed.tryLock (h : s.Backed pool) (conn : Conn) :
    ({ s with lock := (s.lock.tryLock conn).2 } : SweepState Replica Conn).Backed pool := by
  cases ha : (s.lock.tryLock conn).1 with
  | false =>
    rw [SessionLock.tryLock_snd_of_false ha]
    exact h
  | true =>
    obtain ⟨hl, ho⟩ := SessionLock.level_tryLock ha
    refine ⟨?_, ?_⟩
    · rw [hl]
      exact Nat.le_succ_of_le h.level
    · intro owner hs replica hr
      rw [ho] at hs
      cases hs
      rcases SessionLock.tryLock_fst_iff.mp ha with hf | hse
      · rw [h.running_eq_nil hf] at hr
        cases hr
      · exact h.owner conn hse replica hr

theorem SweepState.Backed.unlock (h : s.Backed pool) (conn : Conn) (mem : pool conn ∈ s.releasing) :
    ({ s with
        lock := (s.lock.unlock conn).2
        releasing := s.releasing.erase (pool conn) } : SweepState Replica Conn).Backed pool := by
  obtain ⟨hl, ho⟩ := SessionLock.level_le_unlock conn s.lock
  have hc : (s.releasing.erase (pool conn)).length + 1 = s.releasing.length :=
    length_erase_add_one mem
  have hk : s.running.length + (s.releasing.erase (pool conn)).length ≤
      (s.lock.unlock conn).2.level := by
    have := h.level
    omega
  refine ⟨hk, ?_⟩
  intro owner hs replica hr
  -- a sweep that runs keeps the lock from being free
  have hp : 0 < (s.lock.unlock conn).2.level :=
    Nat.lt_of_lt_of_le (length_pos_of_mem hr)
      (Nat.le_trans (Nat.le_add_right _ _) hk)
  rw [ho hp] at hs
  exact h.owner owner hs replica hr

theorem SweepState.Backed.step (h : s.Backed pool) (hst : SweepStep pool event s s') :
    s'.Backed pool := by
  cases hst with
  | tick conn fault =>
    cases fault with
    | lost => exact h
    | unacknowledged => exact h.tryLock conn
    | none =>
      dsimp only [tryAdvisoryLock]
      split
      · next ha =>
        cases ha' : (s.lock.tryLock conn).1 with
        | false =>
          rw [ha'] at ha
          cases ha
        | true =>
          -- the new sweep has its own level, on the connection that owns the lock
          obtain ⟨hl, how⟩ := SessionLock.level_tryLock ha'
          refine ⟨?_, ?_⟩
          · dsimp only [length_cons]
            have := h.level
            omega
          · intro owner hs replica hr
            rcases mem_cons.mp hr with rfl | hr
            · rw [how] at hs
              cases hs
              rfl
            · exact (h.tryLock conn).owner owner hs replica hr
      · exact h.tryLock conn
  | finish replica mem =>
    refine ⟨?_, ?_⟩
    · have hc : (s.running.erase replica).length + 1 = s.running.length :=
        length_erase_add_one mem
      have := h.level
      dsimp only [length_cons]
      omega
    · intro owner hs other ho
      exact h.owner owner hs other (mem_of_mem_erase ho)
  | release conn fault mem =>
    cases fault with
    | none => exact h.unlock conn mem
    | unacknowledged => exact h.unlock conn mem
    | lost =>
      -- a release that is lost leaves its level behind, which is one too many, not too few
      refine ⟨?_, h.owner⟩
      refine Nat.le_trans (Nat.add_le_add_left ?_ _) h.level
      exact length_erase_le

theorem backed_of_run (h : SweepRun pool history s) : s.Backed pool := by
  induction h with
  | start => exact ⟨Nat.le_refl _, fun _ h => nomatch h⟩
  | step _ hs ih => exact ih.step hs

/-! ## Exclusion -/

theorem exclusive_step_iff (hb : s.Backed pool) (ho : s.Exclusive)
    (hs : SweepStep pool event s s') : s'.Exclusive ↔ ¬ Reenters (event, s) := by
  cases hs with
  | tick conn fault =>
    cases fault with
    | lost => exact iff_of_true ho not_false
    | unacknowledged => exact iff_of_true ho not_false
    | none =>
      dsimp only [tryAdvisoryLock, SweepState.Exclusive, Reenters]
      cases ha : (s.lock.tryLock conn).1 with
      | false =>
        refine iff_of_true ho ?_
        rintro ⟨how, -⟩
        have := SessionLock.tryLock_fst_iff.mpr (Or.inr how)
        rw [ha] at this
        cases this
      | true =>
        cases hr : s.running with
        | nil => exact iff_of_true (Nat.le_refl _) (fun h => h.2 rfl)
        | cons replica rest =>
          -- a second sweep: the lock was not free, so it was taken on its own connection
          refine iff_of_false (fun h => ?_) (fun h => h ⟨?_, cons_ne_nil _ _⟩)
          · dsimp only [length_cons] at h
            omega
          · refine (SessionLock.tryLock_fst_iff.mp ha).resolve_left (fun hf => ?_)
            have hn := hb.running_eq_nil hf
            rw [hr] at hn
            cases hn
  | finish replica mem =>
    exact iff_of_true (Nat.le_trans length_erase_le ho) not_false
  | release conn fault mem => exact iff_of_true ho not_false

/-- In every run, whatever the number of replicas and connections: at most one sweep runs in every
state of the run exactly if no tick of it reenters the lock. -/
theorem sweeps_exclude_iff (hrun : SweepRun pool history s) :
    ((∀ entry ∈ history, entry.2.Exclusive) ∧ s.Exclusive) ↔
      ∀ entry ∈ history, ¬ Reenters entry := by
  induction hrun with
  | start => exact iff_of_true ⟨(fun _ h => nomatch h), Nat.zero_le _⟩ (fun _ h => nomatch h)
  | @step history s s' event run step ih =>
    have hs := fun ho => exclusive_step_iff (backed_of_run run) ho step
    constructor
    · rintro ⟨ha, ho'⟩
      obtain ⟨ho, ha⟩ := forall_mem_cons.mp ha
      exact forall_mem_cons.mpr ⟨(hs ho).mp ho', ih.mp ⟨ha, ho⟩⟩
    · intro hn
      obtain ⟨hen, hn⟩ := forall_mem_cons.mp hn
      obtain ⟨ha, ho⟩ := ih.mpr hn
      exact ⟨forall_mem_cons.mpr ⟨ho, ha⟩, (hs ho).mpr hen⟩

/-- Two replicas with a connection each: the second ticks while the first sweeps, and then the first
releases and the second sweeps. -/
theorem sweeps_exclude_iff_handover :
    ∃ history : List (SweepEvent Bool Bool × SweepState Bool Bool),
      SweepRun id history ⟨.held true 0, [true], []⟩ ∧ ((∀ entry ∈ history, entry.2.Exclusive) ∧
        (⟨.held true 0, [true], []⟩ : SweepState Bool Bool).Exclusive) := by
  have h0 : SweepRun (id : Bool → Bool) [] ⟨.free, [], []⟩ := .start
  have h1 := h0.step (.tick false .none)
  have h2 := h1.step (.tick true .none)
  have h3 := h2.step (.finish false (mem_singleton.mpr rfl))
  have h4 := h3.step (.release false .none (mem_singleton.mpr rfl))
  have h5 := h4.step (.tick true .none)
  refine ⟨_, h5, (sweeps_exclude_iff h5).mpr ?_⟩
  simp [Reenters, tryAdvisoryLock, advisoryUnlock, SessionLock.tryLock, SessionLock.unlock,
    SessionLock.owner]

end Sweeps

/-- One replica with one connection, whose second tick comes while the sweep of the first runs. -/
theorem sweeps_overlap :
    ∃ history : List (SweepEvent Unit Unit × SweepState Unit Unit),
      SweepRun id history ⟨.held () 1, [(), ()], []⟩ ∧
        ¬ (⟨.held () 1, [(), ()], []⟩ : SweepState Unit Unit).Exclusive := by
  have h0 : SweepRun (id : Unit → Unit) [] ⟨.free, [], []⟩ := .start
  have h1 := h0.step (.tick () .none)
  have h2 := h1.step (.tick () .none)
  exact ⟨_, h2, Nat.not_succ_le_self 1⟩

end AcdpControlPlane
