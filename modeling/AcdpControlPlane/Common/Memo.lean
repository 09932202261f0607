import Mathlib.Data.Set.Insert

/-!
# Remembered answers

A source answers questions, and its answers are remembered: a later request that has the key of an earlier
question is served from memory. Several questions can be open at a time, and the memory may be cleared
between a question and its answer. It may also lose answers, at any time and for any reason. An answer that
is served was therefore given to a question of the same key, and nothing else is known of it.
-/

namespace Memo

universe u v w

variable {Request : Type u} {Value : Type v} {Key : Type w}

structure Question (Request : Type u) where
  call : ℕ
  request : Request
deriving DecidableEq, Repr

structure Answer (Request : Type u) (Value : Type v) where
  question : Question Request
  value : Value
deriving DecidableEq, Repr

structure Served (Request : Type u) (Value : Type v) where
  question : Question Request
  answer : Answer Request Value
deriving DecidableEq, Repr

structure State (Request : Type u) (Value : Type v) where
  calls : ℕ
  asked : Set (Question Request)
  known : Set (Answer Request Value)
  answers : List (Answer Request Value)
  served : List (Served Request Value)
  clears : List ℕ

/-- A memory before the first call. -/
def State.empty : State Request Value := ⟨0, ∅, ∅, [], [], []⟩

inductive Op (Request : Type u) (Value : Type v) where
  | serve (request : Request)
  | ask (request : Request)
  | answer (question : Question Request) (value : Value) (kept : Bool)
  | lose
  | clear

/-- The steps of a memory. Everywhere it may know less than it could. -/
inductive Step (key : Request → Key) (s : State Request Value) :
    Op Request Value → State Request Value → Prop where
  | serve {request : Request} {answer : Answer Request Value} {known : Set (Answer Request Value)}
      (hanswer : answer ∈ s.known) (hkey : key answer.question.request = key request)
      (hknown : known ⊆ s.known) :
      Step key s (.serve request)
        { s with
          calls := s.calls + 1
          known := known
          served := ⟨⟨s.calls, request⟩, answer⟩ :: s.served }
  | ask {request : Request} {asked : Set (Question Request)}
      (hasked : asked ⊆ insert ⟨s.calls, request⟩ s.asked) :
      Step key s (.ask request) { s with calls := s.calls + 1, asked := asked }
  | answer {question : Question Request} {value : Value} {kept : Bool}
      {asked : Set (Question Request)} {known : Set (Answer Request Value)}
      (hquestion : question ∈ s.asked) (hasked : asked ⊆ s.asked)
      (hknown : ∀ a ∈ known, a ∈ s.known ∨ kept = true ∧ a = ⟨question, value⟩) :
      Step key s (.answer question value kept)
        { s with
          asked := asked
          known := known
          answers := ⟨question, value⟩ :: s.answers
          served := ⟨question, ⟨question, value⟩⟩ :: s.served }
  | lose {asked : Set (Question Request)} {known : Set (Answer Request Value)}
      (hasked : asked ⊆ s.asked) (hknown : known ⊆ s.known) :
      Step key s .lose { s with asked := asked, known := known }
  | clear : Step key s .clear { s with known := ∅, clears := s.calls :: s.clears }

namespace Op

def Within (requests : Set Request) : Op Request Value → Prop
  | .serve request => request ∈ requests
  | .ask request => request ∈ requests
  | .answer _ _ _ => True
  | .lose => True
  | .clear => True

def Follows (source : Request → Value) : Op Request Value → Prop
  | .answer question value _ => value = source question.request
  | .serve _ => True
  | .ask _ => True
  | .lose => True
  | .clear => True

/-- Nothing is remembered whose question was asked before a clear. -/
def Timely (clears : List ℕ) : Op Request Value → Prop
  | .answer question _ kept => kept = true → ∀ clear ∈ clears, clear ≤ question.call
  | .serve _ => True
  | .ask _ => True
  | .lose => True
  | .clear => True

end Op

structure Sound (key : Request → Key) (requests : Set Request) (s : State Request Value) : Prop where
  asked : ∀ question ∈ s.asked, question.request ∈ requests
  known : ∀ answer ∈ s.known, answer ∈ s.answers
  answers : ∀ answer ∈ s.answers, answer.question.request ∈ requests
  served : ∀ served ∈ s.served, served.question.request ∈ requests ∧ served.answer ∈ s.answers ∧
    key served.answer.question.request = key served.question.request

def Truthful (source : Request → Value) (s : State Request Value) : Prop :=
  ∀ answer ∈ s.answers, answer.value = source answer.question.request

/-- Nothing is known from before a clear, and nothing was served to a request after it. -/
structure Fresh (s : State Request Value) : Prop where
  asked : ∀ question ∈ s.asked, question.call < s.calls
  known : ∀ answer ∈ s.known, ∀ clear ∈ s.clears, clear ≤ answer.question.call
  called : ∀ served ∈ s.served, served.question.call < s.calls
  served : ∀ served ∈ s.served, ∀ clear ∈ s.clears, clear ≤ served.question.call →
    clear ≤ served.answer.question.call

variable {key : Request → Key} {requests : Set Request} {source : Request → Value}
  {s s' : State Request Value} {op : Op Request Value}

theorem Sound.empty : Sound key requests (State.empty : State Request Value) :=
  ⟨nofun, nofun, nofun, nofun⟩

theorem Truthful.empty : Truthful source (State.empty : State Request Value) := nofun

theorem Fresh.empty : Fresh (State.empty : State Request Value) := ⟨nofun, nofun, nofun, nofun⟩

theorem Sound.step (h : Sound key requests s) (ho : op.Within requests) (hs : Step key s op s') :
    Sound key requests s' := by
  cases hs with
  | @serve request answer known han hke hk =>
    refine { h with known := fun a ha => h.known a (hk ha), served := ?_ }
    exact List.forall_mem_cons.mpr ⟨⟨ho, h.known answer han, hke⟩, h.served⟩
  | @ask request asked has =>
    refine { h with asked := fun question hqu => ?_ }
    rcases has hqu with rfl | hqu
    · exact ho
    · exact h.asked question hqu
  | @answer question value kept asked known hqu has hk =>
    refine ⟨fun q hq => h.asked q (has hq), fun a ha => ?_,
      List.forall_mem_cons.mpr ⟨h.asked question hqu, h.answers⟩, List.forall_mem_cons.mpr
        ⟨⟨h.asked question hqu, List.mem_cons_self, rfl⟩, fun served hsv => ?_⟩⟩
    · rcases hk a ha with ha | ⟨_, rfl⟩
      · exact List.mem_cons_of_mem _ (h.known a ha)
      · exact List.mem_cons_self
    · obtain ⟨hr, han, hke⟩ := h.served served hsv
      exact ⟨hr, List.mem_cons_of_mem _ han, hke⟩
  | lose has hk =>
    exact { h with asked := fun q hq => h.asked q (has hq), known := fun a ha => h.known a (hk ha) }
  | clear => exact { h with known := nofun }

theorem Truthful.step (h : Truthful source s) (ho : op.Follows source) (hs : Step key s op s') :
    Truthful source s' := by
  cases hs with
  | answer hq ha hk => exact List.forall_mem_cons.mpr ⟨ho, h⟩
  | serve | ask | lose | clear => exact h

theorem Fresh.step (h : Fresh s) (ho : op.Timely s.clears) (hst : Step key s op s') : Fresh s' := by
  cases hst with
  | @serve request answer known han hkey hk =>
    refine ⟨fun q hq => Nat.lt_succ_of_lt (h.asked q hq), fun a ha => h.known a (hk ha),
      List.forall_mem_cons.mpr ⟨Nat.lt_succ_self _, fun served hs => ?_⟩,
      List.forall_mem_cons.mpr ⟨fun clear hc _ => h.known answer han clear hc, h.served⟩⟩
    exact Nat.lt_succ_of_lt (h.called served hs)
  | @ask request asked has =>
    refine ⟨?_, h.known, fun served hs => Nat.lt_succ_of_lt (h.called served hs), h.served⟩
    intro question hqu
    rcases has hqu with rfl | hqu
    · exact Nat.lt_succ_self _
    · exact Nat.lt_succ_of_lt (h.asked question hqu)
  | @answer question value kept asked known hqu has hk =>
    -- a request that asks the source itself is served the answer to its own question
    refine ⟨fun q hq => h.asked q (has hq), fun a ha => ?_,
      List.forall_mem_cons.mpr ⟨h.asked question hqu, h.called⟩,
      List.forall_mem_cons.mpr ⟨fun _ _ hl => hl, h.served⟩⟩
    rcases hk a ha with ha | ⟨hke, rfl⟩
    · exact h.known a ha
    · exact ho hke
  | lose has hk =>
    exact { h with asked := fun q hq => h.asked q (has hq), known := fun a ha => h.known a (hk ha) }
  | clear =>
    refine { h with known := nofun, served := fun served hs => ?_ }
    refine List.forall_mem_cons.mpr ⟨fun hl => ?_, h.served served hs⟩
    -- everyone who was served called before this clear
    exact absurd (h.called served hs) (Nat.not_lt.mpr hl)

theorem Sound.value_eq (h : Sound key requests s) (ht : Truthful source s)
    (hk : ∀ request ∈ requests, ∀ request' ∈ requests, key request = key request' →
      source request = source request') {served : Served Request Value} (hsv : served ∈ s.served) :
    served.answer.value = source served.question.request := by
  obtain ⟨hr, ha, hs⟩ := h.served served hsv
  calc served.answer.value = source served.answer.question.request := ht _ ha
    _ = source served.question.request := hk _ (h.answers _ ha) _ hr hs

end Memo
