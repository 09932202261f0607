import Mathlib.Tactic.Common

/-!
# Programs that call their environment

A program calls its environment, which answers each call with a result or throws, and goes on from the
answer. A program that waits is one whose call has not been answered. What it does is a tree: one branch for
each answer.
-/

/-- A program whose calls `c : Call` are answered by a `Result c` or by an exception. -/
inductive Interaction (Call : Type) (Result : Call → Type) (E α : Type) where
  | pure (a : α)
  | throw (e : E)
  | call (c : Call) (k : Except E (Result c) → Interaction Call Result E α)

namespace Interaction

variable {Call : Type} {Result : Call → Type} {E α β : Type}

def bind : Interaction Call Result E α → (α → Interaction Call Result E β) →
    Interaction Call Result E β
  | pure a, f => f a
  | throw e, _ => throw e
  | call c k, f => call c fun answer => bind (k answer) f

/-- `try { p } catch (e) { handler(e) }`. -/
def tryCatch : Interaction Call Result E α → (E → Interaction Call Result E α) →
    Interaction Call Result E α
  | pure a, _ => pure a
  | throw e, handler => handler e
  | call c k, handler => call c fun answer => tryCatch (k answer) handler

instance : Monad (Interaction Call Result E) where
  pure := pure
  bind := bind

theorem bind_assoc {γ : Type} (p : Interaction Call Result E α) (f : α → Interaction Call Result E β)
    (g : β → Interaction Call Result E γ) : p >>= f >>= g = p >>= fun a => f a >>= g := by
  induction p with
  | pure a => rfl
  | throw e => rfl
  | call c k ih => exact congrArg (call c) (funext ih)

def perform (c : Call) : Interaction Call Result E (Result c) :=
  call c fun
    | .ok a => pure a
    | .error e => throw e

def pending : Interaction Call Result E α → Option Call
  | call c _ => some c
  | _ => none

/-! ## Specifications -/

section Meets

variable {Seen : Type} (observe : Seen → (c : Call) → Except E (Result c) → Seen)
  (allowed : Seen → (c : Call) → Except E (Result c) → Prop) (before : Seen → Call → Prop)

/-- The program, started when the monitor has seen `seen`, makes its calls when they are due, returns
with `post` and throws with `fail`. -/
def Meets (post : α → Seen → Prop) (fail : E → Seen → Prop) : Interaction Call Result E α → Seen → Prop
  | pure a, seen => post a seen
  | throw e, seen => fail e seen
  | call c k, seen => before seen c ∧
      ∀ answer, allowed seen c answer → Meets post fail (k answer) (observe seen c answer)

variable {observe allowed before} {post post' : α → Seen → Prop} {fail fail' : E → Seen → Prop}
  {p : Interaction Call Result E α} {seen : Seen}

theorem Meets.mono (h : Meets observe allowed before post fail p seen)
    (hp : ∀ a seen, post a seen → post' a seen) (hf : ∀ e seen, fail e seen → fail' e seen) :
    Meets observe allowed before post' fail' p seen := by
  induction p generalizing seen with
  | pure a => exact hp a seen h
  | throw e => exact hf e seen h
  | call c k ih => exact ⟨h.1, fun answer ha => ih answer (h.2 answer ha)⟩

theorem meets_bind {f : α → Interaction Call Result E β} {post : β → Seen → Prop} :
    Meets observe allowed before post fail (p >>= f) seen ↔
      Meets observe allowed before (fun a => Meets observe allowed before post fail (f a)) fail p seen := by
  induction p generalizing seen with
  | pure a => exact Iff.rfl
  | throw e => exact Iff.rfl
  | call c k ih =>
    exact and_congr_right fun _ => forall_congr' fun answer => imp_congr_right fun _ => ih answer

theorem meets_tryCatch {ha : E → Interaction Call Result E α} :
    Meets observe allowed before post fail (tryCatch p ha) seen ↔
      Meets observe allowed before post (fun e => Meets observe allowed before post fail (ha e)) p
        seen := by
  induction p generalizing seen with
  | pure a => exact Iff.rfl
  | throw e => exact Iff.rfl
  | call c k ih =>
    exact and_congr_right fun _ => forall_congr' fun answer => imp_congr_right fun _ => ih answer

theorem meets_perform {c : Call} {post : Result c → Seen → Prop} :
    Meets observe allowed before post fail (perform c) seen ↔
      before seen c ∧
        (∀ a, allowed seen c (.ok a) → post a (observe seen c (.ok a))) ∧
        ∀ e, allowed seen c (.error e) → fail e (observe seen c (.error e)) := by
  constructor
  · rintro ⟨hb, ha⟩
    exact ⟨hb, fun a => ha (.ok a), fun e => ha (.error e)⟩
  · rintro ⟨hb, ho, her⟩
    refine ⟨hb, fun answer => ?_⟩
    cases answer with
    | ok a => exact ho a
    | error e => exact her e

end Meets

/-! ## Runs -/

section Runs

variable (answer : (c : Call) → Except E (Result c))

def run : Interaction Call Result E α → List (Σ c, Except E (Result c)) × Except E α
  | pure a => ([], .ok a)
  | throw e => ([], .error e)
  | call c k =>
    let rest := run (k (answer c))
    (⟨c, answer c⟩ :: rest.1, rest.2)

variable {answer} {e : E}

theorem run_perform_bind_of_ok {c : Call} {f : Result c → Interaction Call Result E β} {a : Result c}
    (h : answer c = .ok a) :
    run answer (perform c >>= f) = (⟨c, .ok a⟩ :: (run answer (f a)).1, (run answer (f a)).2) := by
  change (⟨c, answer c⟩ :: (run answer (bind _ f)).1, (run answer (bind _ f)).2) = _
  rw [h]
  rfl

theorem run_perform_bind_of_error {c : Call} {f : Result c → Interaction Call Result E β}
    (h : answer c = .error e) : run answer (perform c >>= f) = ([⟨c, .error e⟩], .error e) := by
  change (⟨c, answer c⟩ :: (run answer (bind _ f)).1, (run answer (bind _ f)).2) = _
  rw [h]
  rfl

end Runs

/-! ## Bounds -/

/-- The program ends after at most `n` answers. -/
def Bounded : Interaction Call Result E α → ℕ → Prop
  | pure _, _ => True
  | throw _, _ => True
  | call _ _, 0 => False
  | call _ k, n + 1 => ∀ answer, Bounded (k answer) n

variable {p : Interaction Call Result E α} {m n : ℕ}

theorem Bounded.mono (h : Bounded p m) (hm : m ≤ n) : Bounded p n := by
  induction p generalizing m n with
  | pure a => trivial
  | throw e => trivial
  | call c k ih =>
    cases m with
    | zero => exact h.elim
    | succ m =>
      cases n with
      | zero => omega
      | succ n => exact fun answer => ih answer (h answer) (by omega)

theorem bounded_perform (c : Call) : Bounded (perform c : Interaction Call Result E (Result c)) 1 := by
  intro answer
  cases answer <;> trivial

theorem Bounded.bind {f : α → Interaction Call Result E β} (hp : Bounded p m)
    (hf : ∀ a, Bounded (f a) n) : Bounded (p >>= f) (m + n) := by
  induction p generalizing m with
  | pure a => exact (hf a).mono (by omega)
  | throw e => trivial
  | call c k ih =>
    cases m with
    | zero => exact hp.elim
    | succ m =>
      rw [Nat.succ_add]
      exact fun answer => ih answer (hp answer)

theorem Bounded.tryCatch {ha : E → Interaction Call Result E α} (hp : Bounded p m)
    (hh : ∀ e, Bounded (ha e) n) : Bounded (p.tryCatch ha) (m + n) := by
  induction p generalizing m with
  | pure a => trivial
  | throw e => exact (hh e).mono (by omega)
  | call c k ih =>
    cases m with
    | zero => exact hp.elim
    | succ m =>
      rw [Nat.succ_add]
      exact fun answer => ih answer (hp answer)

end Interaction
