import Mathlib.Data.Nat.Notation

/-!
# Session locks

An exclusive advisory lock that is owned by a database session. The session that holds it may take it
again, and then has to release it as many times; a release by any other session does nothing. The
lock knows sessions only: who runs statements on a session, and for what purpose, is not its concern.
-/

namespace AdvisoryLock

/-- A session lock: free, or held by a session, which has taken it again `extra` times. -/
inductive SessionLock (Session : Type*) where
  | free
  | held (owner : Session) (extra : ℕ)
deriving DecidableEq, Repr

namespace SessionLock

variable {Session : Type*}

def owner : SessionLock Session → Option Session
  | free => none
  | held owner _ => some owner

def level : SessionLock Session → ℕ
  | free => 0
  | held _ extra => extra + 1

variable [DecidableEq Session]

def tryLock (session : Session) : SessionLock Session → Bool × SessionLock Session
  | free => (true, held session 0)
  | held owner extra =>
    if owner = session then (true, held owner (extra + 1)) else (false, held owner extra)

/-- Release one level on a session: whether there was one to release. -/
def unlock (session : Session) : SessionLock Session → Bool × SessionLock Session
  | free => (false, free)
  | held owner extra =>
    if owner = session then
      (true, match extra with
        | 0 => free
        | extra + 1 => held owner extra)
    else (false, held owner extra)

variable {session : Session} {lock : SessionLock Session}

theorem tryLock_held_self (extra : ℕ) :
    (held session extra).tryLock session = (true, held session (extra + 1)) := if_pos rfl

theorem tryLock_held_of_ne {owner : Session} (extra : ℕ) (hne : owner ≠ session) :
    (held owner extra).tryLock session = (false, held owner extra) := if_neg hne

theorem unlock_held_of_ne {owner : Session} (extra : ℕ) (hne : owner ≠ session) :
    (held owner extra).unlock session = (false, held owner extra) := if_neg hne

theorem unlock_held_zero : (held session 0).unlock session = (true, free) := if_pos rfl

theorem unlock_held_succ (extra : ℕ) :
    (held session (extra + 1)).unlock session = (true, held session extra) := if_pos rfl

theorem tryLock_fst_iff :
    (lock.tryLock session).1 = true ↔ lock.level = 0 ∨ lock.owner = some session := by
  cases lock with
  | free => exact iff_of_true rfl (Or.inl rfl)
  | held owner extra =>
    by_cases heq : owner = session
    · subst heq
      rw [tryLock_held_self]
      exact iff_of_true rfl (Or.inr rfl)
    · rw [tryLock_held_of_ne extra heq]
      refine iff_of_false Bool.false_ne_true ?_
      rintro (hlev | hown)
      · cases hlev
      · exact heq (Option.some.inj hown)

theorem level_tryLock (h : (lock.tryLock session).1 = true) :
    (lock.tryLock session).2.level = lock.level + 1 ∧
      (lock.tryLock session).2.owner = some session := by
  cases lock with
  | free => exact ⟨rfl, rfl⟩
  | held owner extra =>
    by_cases heq : owner = session
    · subst heq
      rw [tryLock_held_self]
      exact ⟨rfl, rfl⟩
    · rw [tryLock_held_of_ne extra heq] at h
      cases h

theorem tryLock_snd_of_false (h : (lock.tryLock session).1 = false) :
    (lock.tryLock session).2 = lock := by
  cases lock with
  | free => cases h
  | held owner extra =>
    by_cases heq : owner = session
    · subst heq
      rw [tryLock_held_self] at h
      cases h
    · rw [tryLock_held_of_ne extra heq]

theorem level_le_unlock (session : Session) (lock : SessionLock Session) :
    lock.level ≤ (lock.unlock session).2.level + 1 ∧
      (0 < (lock.unlock session).2.level → (lock.unlock session).2.owner = lock.owner) := by
  cases lock with
  | free => exact ⟨Nat.zero_le _, fun _ => rfl⟩
  | held owner extra =>
    by_cases heq : owner = session
    · subst heq
      cases extra with
      | zero =>
        rw [unlock_held_zero]
        exact ⟨Nat.le_refl _, fun h => absurd h (Nat.lt_irrefl 0)⟩
      | succ extra =>
        rw [unlock_held_succ]
        exact ⟨Nat.le_refl _, fun _ => rfl⟩
    · rw [unlock_held_of_ne extra heq]
      exact ⟨Nat.le_succ _, fun _ => rfl⟩

theorem level_unlock_of_owner (hown : lock.owner = some session) :
    (lock.unlock session).2.level + 1 = lock.level := by
  cases lock with
  | free => cases hown
  | held owner extra =>
    cases hown
    cases extra with
    | zero =>
      rw [unlock_held_zero]
      rfl
    | succ extra =>
      rw [unlock_held_succ]
      rfl

theorem unlock_of_owner_ne (hown : lock.owner ≠ some session) : (lock.unlock session).2 = lock := by
  cases lock with
  | free => rfl
  | held owner extra =>
    have hne : owner ≠ session := by
      intro heq
      exact hown (congrArg some heq)
    rw [unlock_held_of_ne extra hne]

omit [DecidableEq Session] in
theorem owner_eq_none_iff : lock.owner = none ↔ lock.level = 0 := by
  cases lock with
  | free => exact iff_of_true rfl rfl
  | held owner extra => exact iff_of_false (Option.some_ne_none _) (Nat.succ_ne_zero _)

end SessionLock

end AdvisoryLock
