import Mathlib.Data.List.Basic
import Mathlib.Data.List.Induction

/-!
# Hash chains

Every row of a chain carries the digest of the row before it and its own digest, which is made of the
first and of the row.
-/

namespace HashChain

universe u v

variable {Row : Type u} {Digest : Type v} (prev digest : Row → Digest) (hash : Digest → Row → Digest)

/-- The rows are a chain from `start`. -/
def Chained (start : Digest) : List Row → Prop
  | [] => True
  | row :: rows => prev row = start ∧ digest row = hash start row ∧ Chained (digest row) rows

def tip (start : Digest) (rows : List Row) : Digest := (rows.getLast?.map digest).getD start

def Linked (last : Digest) (row : Row) : Prop := prev row = last ∧ digest row = hash last row

@[simp] theorem tip_nil (start : Digest) : tip digest start [] = start := rfl

@[simp] theorem tip_cons (start : Digest) (row : Row) (rows : List Row) :
    tip digest start (row :: rows) = tip digest (digest row) rows := by
  simp only [tip, List.getLast?_cons]
  cases rows.getLast? with
  | none => simp
  | some last => simp

variable {prev digest hash} {start : Digest} {rows : List Row} {row : Row}

theorem chained_append {rows' : List Row} :
    Chained prev digest hash start (rows ++ rows') ↔
      Chained prev digest hash start rows ∧ Chained prev digest hash (tip digest start rows) rows' := by
  induction rows generalizing start with
  | nil => simp [Chained]
  | cons first rows ih => simp [Chained, ih, and_assoc]

theorem chained_append_singleton :
    Chained prev digest hash start (rows ++ [row]) ↔
      Chained prev digest hash start rows ∧ Linked prev digest hash (tip digest start rows) row := by
  rw [chained_append]
  simp [Chained, Linked]

theorem Chained.forall_digest {P : Digest → Prop} (hs : P start)
    (hh : ∀ last row, P last → P (hash last row)) (h : Chained prev digest hash start rows) :
    (∀ row ∈ rows, P (digest row)) ∧ P (tip digest start rows) := by
  induction rows generalizing start with
  | nil => exact ⟨List.forall_mem_nil _, hs⟩
  | cons row rows ih =>
    obtain ⟨-, hrow, hr⟩ := h
    have hd : P (digest row) := hrow ▸ hh start row hs
    obtain ⟨hro, ht⟩ := ih hd hr
    exact ⟨List.forall_mem_cons.mpr ⟨hd, hro⟩, tip_cons digest start row rows ▸ ht⟩

theorem Chained.map {Row' Digest' : Type*} {prev' digest' : Row' → Digest'} {hash' : Digest' → Row' → Digest'}
    {f : Row → Row'} {g : Digest → Digest'} (hp : ∀ row, prev' (f row) = g (prev row))
    (hd : ∀ row, digest' (f row) = g (digest row))
    (hh : ∀ last, ∀ row ∈ rows, hash' (g last) (f row) = g (hash last row))
    (h : Chained prev digest hash start rows) : Chained prev' digest' hash' (g start) (rows.map f) := by
  induction rows generalizing start with
  | nil => trivial
  | cons row rows ih =>
    obtain ⟨hs, hro, hr⟩ := h
    refine ⟨by rw [hp, hs], by rw [hd, hro, hh _ _ List.mem_cons_self], ?_⟩
    rw [hd]
    exact ih (fun last row' hm => hh last row' (List.mem_cons_of_mem _ hm)) hr

theorem chained_of_linked (h : ∀ before row after, rows = before ++ row :: after →
      Linked prev digest hash (tip digest start before) row) : Chained prev digest hash start rows := by
  -- from the end, so that the rows before are the rest of the list
  induction rows using List.reverseRecOn with
  | nil => trivial
  | append_singleton rows row ih =>
    rw [chained_append_singleton]
    constructor
    · apply ih
      intro before row' after heq
      apply h before row' (after ++ [row])
      rw [heq]
      simp
    · exact h rows row [] rfl

end HashChain
