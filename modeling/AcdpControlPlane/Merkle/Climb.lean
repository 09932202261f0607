import AcdpControlPlane.Merkle.Level

/-!
# Climbing a Merkle tree

A verifier starts at node `fn` of a level whose last node is `sn` and climbs to the root, taking
one hash of the path for each sibling. What it accumulates on the way is a `Fold`: for inclusion
the root of the tree, for consistency the roots of the old and of the new tree at once.
-/

namespace Merkle

variable {H A B : Type*}

/-- What a climb accumulates: from a sibling on the left, and from one on the right. -/
structure Fold (H A : Type*) where
  left : H → A → A
  right : A → H → A

/-- The climb from node `fn` of a level with last node `sn`, along `path`; undefined when the path
is shorter or longer than the way to the root. -/
def climb (f : Fold H A) (fn sn : ℕ) (a : A) (path : List H) : Option A :=
  if _hsn : sn = 0 then
    match path with
    | [] => some a
    | _ :: _ => none
  else if fn % 2 = 1 then
    match path with
    | [] => none
    | p :: path => climb f (fn / 2) (sn / 2) (f.left p a) path
  else if fn = sn then climb f (fn / 2) (sn / 2) a path
  else
    match path with
    | [] => none
    | p :: path => climb f (fn / 2) (sn / 2) (f.right a p) path
termination_by sn
decreasing_by all_goals omega

section Steps

variable (f : Fold H A) {fn sn : ℕ} (a : A)

@[simp] theorem climb_root_nil : climb f fn 0 a [] = some a := by rw [climb]; simp

@[simp] theorem climb_root_cons (p : H) (path : List H) : climb f fn 0 a (p :: path) = none := by
  rw [climb]; simp

theorem climb_right_child (hs : sn ≠ 0) (hf : fn % 2 = 1) (p : H) (path : List H) :
    climb f fn sn a (p :: path) = climb f (fn / 2) (sn / 2) (f.left p a) path := by
  rw [climb, dif_neg hs, if_pos hf]

theorem climb_promoted (hs : sn ≠ 0) (hf : fn % 2 = 0) (heq : fn = sn) (path : List H) :
    climb f fn sn a path = climb f (fn / 2) (sn / 2) a path := by
  rw [climb.eq_def, dif_neg hs, if_neg (by omega), if_pos heq]

theorem climb_left_child (hf : fn % 2 = 0) (hl : fn < sn) (p : H) (path : List H) :
    climb f fn sn a (p :: path) = climb f (fn / 2) (sn / 2) (f.right a p) path := by
  rw [climb, dif_neg (by omega), if_neg (by omega), if_neg (by omega)]

theorem climb_nil (hs : sn ≠ 0) : climb f fn sn a [] = none := by
  induction sn using Nat.strong_induction_on generalizing fn with
  | _ sn ih =>
    rw [climb, dif_neg hs]
    split
    · rfl
    · split
      · next ho heq => exact ih _ (by omega) (by omega)
      · rfl

end Steps

theorem climb_map {f : Fold H A} {g : Fold H B} {φ : A → B}
    (hl : ∀ p a, φ (f.left p a) = g.left p (φ a)) (hr : ∀ a p, φ (f.right a p) = g.right (φ a) p)
    (fn sn : ℕ) (a : A) (path : List H) : (climb f fn sn a path).map φ = climb g fn sn (φ a) path := by
  induction sn using Nat.strong_induction_on generalizing fn a path with
  | _ sn ih =>
    by_cases hs : sn = 0
    · subst hs
      cases path <;> simp
    · cases path with
      | nil => rw [climb_nil f a hs, climb_nil g _ hs, Option.map_none]
      | cons p path =>
        rw [climb, climb.eq_def g, dif_neg hs, dif_neg hs]
        split
        · rw [ih _ (by omega), hl]
        · split
          · rw [ih _ (by omega)]
          · rw [ih _ (by omega), hr]

theorem length_eq_of_climb {f : Fold H A} {g : Fold H B} {fn sn : ℕ} {a a' : A} {b b' : B}
    {path path' : List H} (hf : climb f fn sn a path = some a')
    (hg : climb g fn sn b path' = some b') : path.length = path'.length := by
  induction sn using Nat.strong_induction_on generalizing fn a b path path' with
  | _ sn ih =>
    by_cases hs : sn = 0
    · cases path <;> cases path' <;> simp_all
    cases path with
    | nil => simp [climb_nil f a hs] at hf
    | cons p path =>
      cases path' with
      | nil => simp [climb_nil g b hs] at hg
      | cons p' path' =>
        rw [climb, dif_neg hs] at hf hg
        split at hf
        next ho =>
          rw [if_pos ho] at hg
          simp [ih _ (by omega) hf hg]
        next ho =>
          rw [if_neg ho] at hg
          split at hf
          next heq =>
            rw [if_pos heq] at hg
            exact ih _ (by omega) hf hg
          next heq =>
            rw [if_neg heq] at hg
            simp [ih _ (by omega) hf hg]

/-! ## The folds of the verifiers -/

variable (h : Hasher H)

def rootFold : Fold H H where
  left p r := h.node p r
  right r p := h.node r p

/-- Consistency: the roots of the old and of the new tree above their nodes. The old tree ends at
its node, so a sibling on the right belongs to the new tree only. -/
def prefixFold : Fold H (H × H) where
  left p r := (h.node p r.1, h.node p r.2)
  right r p := (r.1, h.node r.2 p)

theorem climb_prefixFold_snd (fn sn : ℕ) (r : H × H) (path : List H) :
    (climb (prefixFold h) fn sn r path).map Prod.snd = climb (rootFold h) fn sn r.2 path :=
  climb_map (fun _ _ => rfl) (fun _ _ => rfl) fn sn r path

/-! ## Completeness -/

theorem climb_prefixFold {fn sn : ℕ} {D : List H} {fr sr : H} (hl : D.length = sn + 1)
    (hsr : D[fn]? = some sr) :
    climb (prefixFold h) fn sn (fr, sr) (auditPath h fn D) =
      some (mth h (D.take fn ++ [fr]), mth h D) := by
  induction sn using Nat.strong_induction_on generalizing fn D fr sr with
  | _ sn ih =>
    have hf : fn < D.length := (List.getElem?_eq_some_iff.mp hsr).1
    by_cases hsn : sn = 0
    · subst hsn
      obtain ⟨d, rfl⟩ := List.length_eq_one_iff.mp hl
      have hf0 : fn = 0 := by simp at hf; omega
      subst hf0
      simp at hsr
      subst hsr
      simp [auditPath_of_length_le_one]
    · have hl' : (pairUp h D).length = sn / 2 + 1 := by
        rw [length_pairUp]
        omega
      rw [auditPath_pairUp h hf (by omega), ← mth_pairUp h (D.take fn ++ [fr]),
        ← mth_pairUp h D]
      rcases Nat.even_or_odd' fn with ⟨j, rfl | rfl⟩
      · have hj : 2 * j / 2 = j := by omega
        rw [pairUp_take_append h (by omega), pairUp_singleton, hj]
        by_cases heq : 2 * j = sn
        · have hs : sibling (2 * j) D = [] := by
            rw [sibling, if_neg (by omega), List.getElem?_eq_none (by omega)]
            rfl
          rw [hs, List.nil_append, climb_promoted _ _ hsn (by omega) heq, hj]
          exact ih _ (by omega) hl' (getElem?_pairUp_last h hsr (by omega))
        · obtain ⟨p, hp⟩ : ∃ p, D[2 * j + 1]? = some p :=
            ⟨_, List.getElem?_eq_getElem (by omega)⟩
          have hs : sibling (2 * j) D = [p] := by
            rw [sibling, if_neg (by omega), hp]
            rfl
          rw [hs, List.singleton_append, climb_left_child _ _ (by omega) (by omega), hj]
          exact ih _ (by omega) hl' (getElem?_pairUp_node h hsr hp)
      · have hj : (2 * j + 1) / 2 = j := by omega
        obtain ⟨p, hp⟩ : ∃ p, D[2 * j]? = some p := ⟨_, List.getElem?_eq_getElem (by omega)⟩
        have hs : sibling (2 * j + 1) D = [p] := by
          rw [sibling, if_pos (by omega), show 2 * j + 1 - 1 = 2 * j by omega, hp]
          rfl
        rw [hs, List.singleton_append, climb_right_child _ _ hsn (by omega), hj,
          List.take_add_one, hp, List.append_assoc, pairUp_take_append h (by omega)]
        exact ih _ (by omega) hl' (getElem?_pairUp_node h hp hsr)

theorem climb_rootFold {fn sn : ℕ} {D : List H} {r : H} (hl : D.length = sn + 1)
    (hr : D[fn]? = some r) : climb (rootFold h) fn sn r (auditPath h fn D) = some (mth h D) := by
  rw [← climb_prefixFold_snd h fn sn (r, r), climb_prefixFold h hl hr, Option.map_some]

/-! ## Soundness -/

/-- No interior node of the tree over `D` has a second preimage. -/
def CollisionFree (D : List H) : Prop :=
  ∀ a b, (a, b) ∈ interior h D → ∀ x y, h.node x y = h.node a b → x = a ∧ y = b

theorem CollisionFree.pairUp {h : Hasher H} {D : List H} (hD : CollisionFree h D) :
    CollisionFree h (pairUp h D) := fun a b ha =>
  hD a b (interior_pairUp_subset h D ha)

theorem climb_rootFold_sound {fn sn : ℕ} {D : List H} (hD : CollisionFree h D) {r : H}
    {path : List H} (hl : D.length = sn + 1) (hf : fn ≤ sn)
    (hc : climb (rootFold h) fn sn r path = some (mth h D)) :
    D[fn]? = some r ∧ path = auditPath h fn D := by
  induction sn using Nat.strong_induction_on generalizing fn D r path with
  | _ sn ih =>
    by_cases hs : sn = 0
    · subst hs
      obtain ⟨d, rfl⟩ := List.length_eq_one_iff.mp hl
      have hf0 : fn = 0 := by omega
      subst hf0
      cases path with
      | nil =>
        simp only [climb_root_nil, mth_singleton, Option.some.injEq] at hc
        simp [hc, auditPath_of_length_le_one]
      | cons p path => simp at hc
    · have hl' : (pairUp h D).length = sn / 2 + 1 := by
        rw [length_pairUp]
        omega
      obtain ⟨d, hd⟩ : ∃ d, D[fn]? = some d := ⟨_, List.getElem?_eq_getElem (by omega)⟩
      rw [auditPath_pairUp h (by omega) (by omega)]
      rw [← mth_pairUp h D] at hc
      rcases Nat.even_or_odd' fn with ⟨j, rfl | rfl⟩
      · have hj : 2 * j / 2 = j := by omega
        rw [hj]
        by_cases heq : 2 * j = sn
        · rw [climb_promoted _ _ hs (by omega) heq, hj] at hc
          obtain ⟨hn, hp⟩ := ih _ (by omega) hD.pairUp hl' (by omega) hc
          have hla := getElem?_pairUp_last h hd (by omega)
          rw [hn] at hla
          refine ⟨hd.trans hla.symm, ?_⟩
          rw [sibling, if_neg (by omega), List.getElem?_eq_none (by omega)]
          exact hp
        · cases path with
          | nil => rw [climb_nil _ _ hs] at hc; cases hc
          | cons p path =>
            obtain ⟨e, he⟩ : ∃ e, D[2 * j + 1]? = some e :=
              ⟨_, List.getElem?_eq_getElem (by omega)⟩
            rw [climb_left_child _ _ (by omega) (by omega), hj] at hc
            obtain ⟨hn, hp⟩ := ih _ (by omega) hD.pairUp hl' (by omega) hc
            rw [getElem?_pairUp_node h hd he, Option.some.injEq] at hn
            obtain ⟨rfl, rfl⟩ := hD _ _ (mem_interior_of_siblings h hd he) _ _ hn.symm
            refine ⟨hd, ?_⟩
            rw [sibling, if_neg (by omega), he, hp]
            rfl
      · have hj : (2 * j + 1) / 2 = j := by omega
        rw [hj]
        cases path with
        | nil => rw [climb_nil _ _ hs] at hc; cases hc
        | cons p path =>
          obtain ⟨e, he⟩ : ∃ e, D[2 * j]? = some e := ⟨_, List.getElem?_eq_getElem (by omega)⟩
          rw [climb_right_child _ _ hs (by omega), hj] at hc
          obtain ⟨hn, hp⟩ := ih _ (by omega) hD.pairUp hl' (by omega) hc
          rw [getElem?_pairUp_node h he hd, Option.some.injEq] at hn
          obtain ⟨rfl, rfl⟩ := hD _ _ (mem_interior_of_siblings h he hd) _ _ hn.symm
          refine ⟨hd, ?_⟩
          rw [sibling, if_pos (by omega), show 2 * j + 1 - 1 = 2 * j by omega, he, hp]
          rfl

end Merkle
