import Mathlib.Tactic.Common

/-!
# Programs that write and may throw

A program changes a state and returns or throws; what it has written stays when it throws. This is the
monad `EStateM`. A relation between states that every part of a program keeps is kept by the program,
at whatever point it ends.
-/

namespace Program

variable {ε σ α β : Type} {R : σ → σ → Prop}

/-- The state in which a program ends, whether it returns or throws. -/
def after (p : EStateM ε σ α) (s : σ) : σ :=
  match p s with
  | .ok _ s' => s'
  | .error _ s' => s'

/-- Where a program ends is related to where it started. -/
def Keeps (R : σ → σ → Prop) (p : EStateM ε σ α) : Prop := ∀ s, R s (after p s)

variable {p : EStateM ε σ α} {s s' : σ} {a : α} {f : α → EStateM ε σ β}

theorem after_of_ok (h : p s = .ok a s') : after p s = s' := by
  simp only [after, h]

theorem after_of_error {e : ε} (h : p s = .error e s') : after p s = s' := by
  simp only [after, h]

theorem bind_of_ok (h : p s = .ok a s') : (p >>= f) s = f a s' := by
  change EStateM.bind p f s = f a s'
  simp only [EStateM.bind, h]

theorem bind_of_error {e : ε} (h : p s = .error e s') : (p >>= f) s = .error e s' := by
  change EStateM.bind p f s = .error e s'
  simp only [EStateM.bind, h]

theorem after_bind_of_ok (h : p s = .ok a s') : after (p >>= f) s = after (f a) s' := by
  unfold after
  rw [bind_of_ok h]

@[simp] theorem after_ofExcept (result : Except ε α) (s : σ) :
    after (MonadExcept.ofExcept result : EStateM ε σ α) s = s := by
  cases result <;> rfl

@[simp] theorem after_ofExcept_ok_bind (a : α) (f : α → EStateM ε σ β) (s : σ) :
    after ((MonadExcept.ofExcept (.ok a : Except ε α) : EStateM ε σ α) >>= f) s = after (f a) s := rfl

theorem after_tryFinally (p : EStateM ε σ α) (q : EStateM ε σ β) (s : σ) :
    after (tryFinally p q) s = after q (after p s) := by
  simp only [after, tryFinally, tryFinally', Functor.map, EStateM.map]
  cases p s with
  | ok a s' =>
    dsimp only
    cases q s' <;> rfl
  | error e s' =>
    dsimp only
    cases q s' <;> rfl

theorem keeps_pure (hr : ∀ s, R s s) (a : α) : Keeps R (pure a : EStateM ε σ α) := hr

theorem keeps_ofExcept (hr : ∀ s, R s s) (result : Except ε α) :
    Keeps R (MonadExcept.ofExcept result : EStateM ε σ α) := by
  intro s
  rw [after_ofExcept]
  exact hr s

theorem keeps_ofExcept_bind (hr : ∀ s, R s s) {result : Except ε α}
    (hf : ∀ a, result = .ok a → Keeps R (f a)) :
    Keeps R ((MonadExcept.ofExcept result : EStateM ε σ α) >>= f) := by
  cases result with
  | error e => exact hr
  | ok a => exact hf a rfl

theorem Keeps.bind (ht : ∀ s t u, R s t → R t u → R s u) (hp : Keeps R p) (hf : ∀ a, Keeps R (f a)) : Keeps R (p >>= f) := by
  intro s
  have hfs := hp s
  cases hr : p s with
  | ok a s' =>
    rw [after_of_ok hr] at hfs
    have hre := hf a s'
    unfold after at hre ⊢
    rw [bind_of_ok hr]
    exact ht _ _ _ hfs hre
  | error e s' =>
    rw [after_of_error hr] at hfs
    rw [after_of_error (bind_of_error hr)]
    exact hfs

theorem Keeps.forM (hr : ∀ s, R s s) (ht : ∀ s t u, R s t → R t u → R s u)
    {f : α → EStateM ε σ PUnit} (items : List α) (hf : ∀ a ∈ items, Keeps R (f a)) :
    Keeps R (items.forM f) := by
  induction items with
  | nil => exact keeps_pure hr _
  | cons a items ih =>
    apply Keeps.bind ht (hf a List.mem_cons_self)
    intro _
    exact ih fun b hb => hf b (List.mem_cons_of_mem _ hb)

theorem Keeps.cleanup (ht : ∀ s t u, R s t → R t u → R s u)
    {q : EStateM ε σ β} (hp : Keeps R p) (hq : Keeps R q) : Keeps R (tryFinally p q) := by
  intro s
  rw [after_tryFinally]
  exact ht _ _ _ (hp s) (hq _)

/-! ## Changes that do not matter -/

def mapState (g : σ → σ) : EStateM.Result ε σ α → EStateM.Result ε σ α
  | .ok a s => .ok a (g s)
  | .error e s => .error e (g s)

/-- A change of the state that may be made before the program or after it. -/
def Commutes (g : σ → σ) (p : EStateM ε σ α) : Prop := ∀ s, p (g s) = mapState g (p s)

variable {g : σ → σ}

theorem Commutes.after_eq (hp : Commutes g p) (s : σ) : after p (g s) = g (after p s) := by
  unfold after
  rw [hp s]
  cases p s <;> rfl

theorem commutes_pure (a : α) : Commutes g (pure a : EStateM ε σ α) := fun _ => rfl

theorem commutes_ofExcept (result : Except ε α) :
    Commutes g (MonadExcept.ofExcept result : EStateM ε σ α) := by
  intro s
  cases result <;> rfl

theorem Commutes.bind (hp : Commutes g p) (hf : ∀ a, Commutes g (f a)) : Commutes g (p >>= f) := by
  intro s
  have hfs := hp s
  cases hr : p s with
  | ok a s' =>
    rw [hr] at hfs
    rw [bind_of_ok hr, bind_of_ok hfs]
    exact hf a s'
  | error e s' =>
    rw [hr] at hfs
    rw [bind_of_error hr, bind_of_error hfs]
    rfl

theorem Commutes.forM {f : α → EStateM ε σ PUnit} (items : List α)
    (hf : ∀ a ∈ items, Commutes g (f a)) : Commutes g (items.forM f) := by
  induction items with
  | nil => exact commutes_pure _
  | cons a items ih =>
    apply Commutes.bind (hf a List.mem_cons_self)
    intro _
    exact ih fun b hb => hf b (List.mem_cons_of_mem _ hb)

end Program
