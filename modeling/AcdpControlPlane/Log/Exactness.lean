import AcdpControlPlane.Log.Verify

/-!
# What the folds accept

The loops of `verifyInclusionPath` and `verifyConsistencyPath` run over two shift counters and skip
several levels at once; `Merkle.climb` takes one level at a time. Here the loops are shown to be
climbs, and the verdicts of the two functions follow from what a climb yields.
-/

namespace AcdpControlPlane

open Merkle List

/-! ## The shift counters -/

section Counters

variable {A : Type} (f : Fold Digest A)

theorem exists_skipEven_self {n : ℕ} (hn : n ≠ 0) :
    ∃ q, q % 2 = 1 ∧ skipEven n n = (q, q) ∧
      ∀ a path, climb f n n a path = climb f q q a path := by
  induction n using Nat.strong_induction_on with
  | _ n ih =>
    by_cases ho : n % 2 = 1
    · refine ⟨n, ho, ?_, fun _ _ => rfl⟩
      rw [skipEven, dif_neg (by omega)]
    · obtain ⟨q, hq, hs, hc⟩ := ih (n / 2) (by omega) (by omega)
      refine ⟨q, hq, ?_, fun a path => ?_⟩
      · rw [skipEven, dif_pos ⟨by omega, hn⟩, hs]
      · rw [climb_promoted f a hn (by omega) rfl, hc]

variable {fn sn : ℕ}

theorem climb_shiftLeftSibling (hsn : sn ≠ 0) (hf : fn % 2 = 1 ∨ fn = sn) (a : A)
    (p : Digest) (path : List Digest) :
    climb f fn sn a (p :: path) =
      climb f (shiftLeftSibling fn sn).1 (shiftLeftSibling fn sn).2 (f.left p a) path := by
  by_cases ho : fn % 2 = 1
  · rw [shiftLeftSibling, if_neg (by omega), climb_right_child f a hsn ho]
  · obtain rfl : fn = sn := hf.resolve_left ho
    obtain ⟨q, hq, hs, hc⟩ := exists_skipEven_self f hsn
    rw [shiftLeftSibling, if_pos (by omega), hs, hc,
      climb_right_child f a (by omega) hq]

theorem skipEven_le (hl : fn ≤ sn) : (skipEven fn sn).1 ≤ (skipEven fn sn).2 := by
  fun_induction skipEven fn sn with
  | case1 fn sn _ ih => exact ih (by omega)
  | case2 fn sn _ => exact hl

theorem shiftLeftSibling_le (hl : fn ≤ sn) :
    (shiftLeftSibling fn sn).1 ≤ (shiftLeftSibling fn sn).2 := by
  unfold shiftLeftSibling
  by_cases hev : fn % 2 = 0
  · rw [if_pos hev]
    exact Nat.div_le_div_right (skipEven_le hl)
  · rw [if_neg hev]
    exact Nat.div_le_div_right hl

end Counters

/-! ## Inclusion -/

section Inclusion

variable (h : Hasher Digest)

theorem inclusionLoop_eq_ok {fn sn : ℕ} {r root : Digest} {path : List String} (hle : fn ≤ sn) :
    inclusionLoop h fn sn r path = .ok (0, root) ↔
      ∃ ds : List Digest, path = ds.map Digest.toWire ∧
        climb (rootFold h) fn sn r ds = some root := by
  induction path generalizing fn sn r with
  | nil =>
    have hn : ∀ ds : List Digest, [] = ds.map Digest.toWire ↔ ds = [] := by simp
    simp only [inclusionLoop, hn, exists_eq_left, Except.ok.injEq, Prod.mk.injEq]
    by_cases hs : sn = 0
    · subst hs
      simp
    · simp [hs, climb_nil]
  | cons element path ih =>
    rw [inclusionLoop]
    -- the wire form is unique, so a decoded element fixes the first hash of the path
    have hco : (∃ ds : List Digest, element :: path = ds.map Digest.toWire ∧
          climb (rootFold h) fn sn r ds = some root) ↔
        ∃ p, wireHashToBuf element = some p ∧ ∃ ds : List Digest,
          path = ds.map Digest.toWire ∧ climb (rootFold h) fn sn r (p :: ds) = some root := by
      constructor
      · rintro ⟨_ | ⟨p, ds⟩, heq, hc⟩
        · simp at heq
        · simp only [map_cons, cons.injEq] at heq
          exact ⟨p, wireHashToBuf_eq_some.mpr heq.1, ds, heq.2, hc⟩
      · rintro ⟨p, hp, ds, rfl, hc⟩
        exact ⟨p :: ds, by rw [wireHashToBuf_eq_some.mp hp, map_cons], hc⟩
    rw [hco]
    cases hp : wireHashToBuf element with
    | none => simp
    | some p =>
      simp only [Option.some.injEq, exists_eq_left']
      by_cases hs : sn = 0
      · subst hs
        simp
      rw [if_neg hs]
      split
      next hl =>
        rw [ih (shiftLeftSibling_le hle)]
        simp only [climb_shiftLeftSibling (rootFold h) hs hl]
        rfl
      next hr =>
        rw [ih (Nat.div_le_div_right hle)]
        simp only [climb_left_child (rootFold h) r (show fn % 2 = 0 by omega)
          (show fn < sn by omega)]
        rfl

theorem verifyInclusionPath_eq_ok {i n : ℕ} {leaf root : Digest} {path : List String} (hi : i < n) :
    verifyInclusionPath h i n leaf path root.toWire = .ok () ↔
      ∃ ds : List Digest, path = ds.map Digest.toWire ∧
        climb (rootFold h) i (n - 1) leaf ds = some root := by
  rw [← inclusionLoop_eq_ok h (by omega)]
  have hs : ((n : Int) - 1).toNat = n - 1 := by omega
  simp only [verifyInclusionPath, wireHashToBuf_toWire, JsNumber.ofNat_int?]
  rw [if_neg (by omega), hs]
  cases hl : inclusionLoop h i (n - 1) leaf path with
  | error reason => simp [bind, Except.bind]
  | ok final =>
    obtain ⟨sn, r⟩ := final
    simp only [bind, Except.bind, Except.ok.injEq, Prod.mk.injEq]
    split
    · simp_all
    · split <;> simp_all

end Inclusion

/-! ## The power-of-two test -/

theorem isPowerOfTwo_iff {n : ℕ} (hpo : 0 < n) (hn : n < 2 ^ 53) :
    isPowerOfTwo n = true ↔ n % 2 ^ 32 = 0 ∨ (n % 2 ^ 32).isPowerOfTwo := by
  rw [isPowerOfTwo, roundToDouble_of_lt (by omega)]
  have ht : (0 : BitVec 32).toNat = 0 := rfl
  simp only [hpo, decide_true, Bool.true_and, beq_iff_eq, ← BitVec.toNat_inj, toInt32,
    BitVec.toNat_and, BitVec.toNat_ofNat, ht]
  by_cases hz : n % 2 ^ 32 = 0
  · rw [hz, Nat.zero_and]
    exact iff_of_true rfl (Or.inl rfl)
  · have hp : (n - 1) % 2 ^ 32 = n % 2 ^ 32 - 1 := by omega
    rw [hp, Nat.and_sub_one_eq_zero_iff_isPowerOfTwo hz, or_iff_right hz]

theorem isPowerOfTwo_of_isPowerOfTwo {n : ℕ} (hn : n < 2 ^ 53) (hp : n.isPowerOfTwo) :
    isPowerOfTwo n = true := by
  obtain ⟨k, rfl⟩ := hp
  rw [isPowerOfTwo_iff (Nat.two_pow_pos k) hn]
  by_cases hk : k < 32
  · right
    rw [Nat.mod_eq_of_lt (Nat.pow_lt_pow_right (by omega) hk)]
    exact ⟨k, rfl⟩
  · left
    exact Nat.mod_eq_zero_of_dvd (Nat.pow_dvd_pow 2 (by omega))

/-! ## Consistency -/

section Consistency

variable (h : Hasher Digest)

/-- The level of the tree over `D` at which the first `m` leaves end in a left child: the nodes of
the level are `E`, and `m'` of them cover the first `m` leaves. -/
structure StartLevel (D : List Digest) (m : ℕ) where
  E : List Digest
  m' : ℕ
  odd : m' % 2 = 1
  lt : m' < E.length
  skipOdd_eq : skipOdd (m - 1) (D.length - 1) = (m' - 1, E.length - 1)
  mth_eq : mth h E = mth h D
  mth_take : mth h (E.take m') = mth h (D.take m)
  subproof_eq : subproof h m' E true = subproof h m D true
  collisionFree : CollisionFree h D → CollisionFree h E
  one_iff : m' = 1 ↔ m.isPowerOfTwo

variable {m : ℕ} {D : List Digest}

theorem isPowerOfTwo_half (hev : m % 2 = 0) : (m / 2).isPowerOfTwo ↔ m.isPowerOfTwo := by
  constructor
  · rintro ⟨k, hk⟩
    exact ⟨k + 1, by rw [pow_succ]; omega⟩
  · rintro ⟨_ | k, hk⟩
    · omega
    · exact ⟨k, by rw [pow_succ] at hk; omega⟩

theorem eq_one_iff_isPowerOfTwo_of_odd (ho : m % 2 = 1) : m = 1 ↔ m.isPowerOfTwo := by
  constructor
  · rintro rfl
    exact Nat.isPowerOfTwo_one
  · rintro ⟨_ | k, hk⟩
    · exact hk
    · omega

theorem exists_startLevel (hp : 0 < m) (hlt : m < D.length) : Nonempty (StartLevel h D m) := by
  induction m using Nat.strong_induction_on generalizing D with
  | _ m ih =>
    by_cases ho : m % 2 = 1
    · refine ⟨⟨D, m, ho, hlt, ?_, rfl, rfl, rfl, id, eq_one_iff_isPowerOfTwo_of_odd ho⟩⟩
      rw [skipOdd, dif_neg (by omega)]
    · have hl := length_pairUp h D
      obtain ⟨S⟩ := ih (m / 2) (by omega) (D := pairUp h D) (by omega) (by omega)
      have hs := S.skipOdd_eq
      have ht := S.mth_take
      have hsu := S.subproof_eq
      have hon := S.one_iff
      refine ⟨⟨S.E, S.m', S.odd, S.lt, ?_, ?_, ?_, ?_, fun hD => S.collisionFree hD.pairUp, ?_⟩⟩
      · rw [skipOdd, dif_pos (by omega), ← hs, hl]
        congr 1 <;> omega
      · rw [S.mth_eq, mth_pairUp]
      · rw [ht, ← pairUp_take, mth_pairUp, show 2 * (m / 2) = m by omega]
      · rw [hsu, subproof_of_even h true (by omega) hp (by omega)]
      · rw [hon, isPowerOfTwo_half (by omega)]

theorem consistencyLoop_eq_ok {fn sn : ℕ} {fr sr fr' sr' : Digest} {path : List Digest} (hle : fn ≤ sn) :
    consistencyLoop h fn sn fr sr path = .ok (fr', sr', 0) ↔
      climb (prefixFold h) fn sn (fr, sr) path = some (fr', sr') := by
  induction path generalizing fn sn fr sr with
  | nil =>
    by_cases hs : sn = 0
    · subst hs
      simp [consistencyLoop]
    · simp [consistencyLoop, climb_nil, hs]
  | cons c path ih =>
    rw [consistencyLoop]
    by_cases hs : sn = 0
    · subst hs
      simp
    rw [if_neg hs]
    split
    next hl =>
      rw [ih (shiftLeftSibling_le hle), climb_shiftLeftSibling _ hs hl]
      rfl
    next hr =>
      rw [ih (Nat.div_le_div_right hle),
        climb_left_child _ _ (show fn % 2 = 0 by omega) (show fn < sn by omega)]
      rfl

theorem foldConsistency_eq_ok (S : StartLevel h D m)
    {seed firstRoot secondRoot : Digest} {path : List Digest} :
    foldConsistency h m D.length (seed :: path) firstRoot secondRoot = .ok () ↔
      climb (prefixFold h) (S.m' - 1) (S.E.length - 1) (seed, seed) path =
        some (firstRoot, secondRoot) := by
  have hlt := S.lt
  rw [← consistencyLoop_eq_ok h (by omega), foldConsistency, S.skipOdd_eq]
  cases hl : consistencyLoop h (S.m' - 1) (S.E.length - 1) seed seed path with
  | error reason => simp [bind, Except.bind, hl]
  | ok final =>
    obtain ⟨fr, sr, sn⟩ := final
    simp only [bind, Except.bind, hl, Except.ok.injEq, Prod.mk.injEq]
    split
    · simp_all
    · split
      · simp_all
      · split <;> simp_all

theorem verifyConsistencyPath_eq_ok {n : ℕ} (hp : 0 < m) (hl : m < n) {path : List String}
    {firstRoot secondRoot : Digest} :
    verifyConsistencyPath h m n path firstRoot.toWire secondRoot.toWire = .ok () ↔
      path ≠ [] ∧ ∃ ds : List Digest, path = ds.map Digest.toWire ∧
        foldConsistency h m n (if isPowerOfTwo m then firstRoot :: ds else ds) firstRoot
          secondRoot = .ok () := by
  simp only [verifyConsistencyPath, wireHashToBuf_toWire, JsNumber.ofNat_int?]
  rw [if_neg (by omega)]
  by_cases hn : path = []
  · simp [hn]
  have hs : ¬(m = 0 ∨ m > n ∨ path.length = 0) := by
    rintro (hz | hg | hem)
    · omega
    · omega
    · exact hn (length_eq_zero_iff.mp hem)
  rw [if_neg hs]
  constructor
  · intro ho
    cases hm : path.mapM wireHashToBuf with
    | none => simp [hm] at ho
    | some ds =>
      rw [hm] at ho
      exact ⟨hn, ds, mapM_wireHashToBuf_eq_some.mp hm, ho⟩
  · rintro ⟨-, ds, hd, ho⟩
    rw [mapM_wireHashToBuf_eq_some.mpr hd]
    exact ho

theorem StartLevel.exists_seed (S : StartLevel h D m) :
    ∃ seed, S.E[S.m' - 1]? = some seed ∧ S.E.take (S.m' - 1) ++ [seed] = S.E.take S.m' := by
  have hl := S.lt
  have ho := S.odd
  refine ⟨_, getElem?_eq_getElem (show S.m' - 1 < S.E.length by omega), ?_⟩
  rw [take_append_getElem]
  congr 1
  omega

theorem verifyConsistencyPath_consistencyProof (hpo : 0 < m)
    (hlt : m < D.length) (hma : D.length < 2 ^ 53) :
    verifyConsistencyPath h m D.length ((consistencyProof h m D).map Digest.toWire)
        (mth h (D.take m)).toWire (mth h D).toWire = .ok () ↔
      (isPowerOfTwo m = true → m.isPowerOfTwo) := by
  obtain ⟨S⟩ := exists_startLevel h hpo hlt
  obtain ⟨seed, hs, hta⟩ := S.exists_seed
  have hElt := S.lt
  have ho := S.odd
  have hpr : consistencyProof h m D =
      (if m.isPowerOfTwo then [] else [seed]) ++ auditPath h (S.m' - 1) S.E := by
    rw [consistencyProof, if_neg (by omega), ← S.subproof_eq, subproof_of_odd h true S.odd S.lt,
      hs]
    simp only [S.one_iff, true_and, Option.toList_some]
  -- the climb from the seed along its audit path is the only one that reaches the root
  have hc : climb (prefixFold h) (S.m' - 1) (S.E.length - 1) (seed, seed)
      (auditPath h (S.m' - 1) S.E) = some (mth h (D.take m), mth h D) := by
    rw [climb_prefixFold h (by omega) hs, hta, S.mth_take, S.mth_eq]
  have hn : auditPath h (S.m' - 1) S.E ≠ [] := by
    rw [auditPath, dif_pos (by omega)]
    split <;> simp
  have hm : ∀ ds : List Digest, (consistencyProof h m D).map Digest.toWire =
      ds.map Digest.toWire ↔ consistencyProof h m D = ds := fun ds =>
    (map_injective_iff.mpr toWire_injective).eq_iff
  rw [verifyConsistencyPath_eq_ok h hpo hlt]
  simp only [hm, exists_eq_left', ne_eq, map_eq_nil_iff]
  by_cases hp : m.isPowerOfTwo
  · rw [hpr, if_pos hp, nil_append, if_pos (isPowerOfTwo_of_isPowerOfTwo (by omega) hp),
      foldConsistency_eq_ok h S]
    have hf : mth h (D.take m) = seed := by
      rw [← S.mth_take, ← hta, S.one_iff.mpr hp]
      simp
    rw [hf] at hc ⊢
    simp [hn, hc, hp]
  · rw [hpr, if_neg hp, singleton_append]
    by_cases ht : isPowerOfTwo m = true
    · rw [if_pos ht, foldConsistency_eq_ok h S]
      simp only [ht, hp, imp_false, not_true_eq_false, iff_false, not_and]
      intro _ hl
      have := length_eq_of_climb hl hc
      simp at this
    · rw [if_neg ht, foldConsistency_eq_ok h S]
      simp [hc, ht]

theorem eq_mth_take_of_verifyConsistencyPath {path : List String}
    {firstRootHash : String} (hD : CollisionFree h D) (hp : 0 < m) (hle : m ≤ D.length)
    (ho : verifyConsistencyPath h m D.length path firstRootHash (mth h D).toWire = .ok ()) :
    firstRootHash = (mth h (D.take m)).toWire := by
  obtain ⟨firstRoot, hfs⟩ : ∃ d, wireHashToBuf firstRootHash = some d := by
    cases hw : wireHashToBuf firstRootHash with
    | none => simp [verifyConsistencyPath, hw] at ho
    | some d => exact ⟨d, rfl⟩
  rw [wireHashToBuf_eq_some] at hfs
  subst hfs
  congr 1
  rcases hle.eq_or_lt with rfl | hl
  · simp only [verifyConsistencyPath, wireHashToBuf_toWire, JsNumber.ofNat_int?, if_true] at ho
    split at ho
    · cases ho
    · split at ho
      next heq => rw [heq, take_length]
      · cases ho
  · obtain ⟨S⟩ := exists_startLevel h hp hl
    have hElt := S.lt
    obtain ⟨-, ds, -, hf⟩ := (verifyConsistencyPath_eq_ok h hp hl).mp ho
    cases hd : (if isPowerOfTwo m then firstRoot :: ds else ds) with
    | nil => simp [hd, foldConsistency] at hf
    | cons seed rest =>
      rw [hd, foldConsistency_eq_ok h S, ← S.mth_eq] at hf
      have hr := climb_prefixFold_snd h (S.m' - 1) (S.E.length - 1) (seed, seed) rest
      rw [hf, Option.map_some] at hr
      obtain ⟨hs, hre⟩ := climb_rootFold_sound h (S.collisionFree hD) (by omega) (by omega)
        hr.symm
      obtain ⟨seed', hs', ht⟩ := S.exists_seed
      obtain rfl : seed' = seed := Option.some.inj (hs'.symm.trans hs)
      rw [hre, climb_prefixFold h (by omega) hs, ht] at hf
      rw [← S.mth_take]
      exact (Prod.mk.inj (Option.some.inj hf)).1.symm

end Consistency

/-! ## A log of three leaves -/

/-- The log `1, 2, 3`. -/
def threeLeaves : List Digest := [.replicate 1, .replicate 2, .replicate 3]

/-- A node hash without second preimages on the log `1, 2, 3`: the first two leaves have node `4`,
the root is `5`, and every other pair hashes to `0`. -/
def threeLeafHasher : Hasher Digest where
  node x y :=
    if x = .replicate 1 ∧ y = .replicate 2 then .replicate 4
    else if x = .replicate 4 ∧ y = .replicate 3 then .replicate 5
    else .replicate 0
  empty := .replicate 0

theorem interior_threeLeaves : interior threeLeafHasher threeLeaves =
    [(.replicate 4, .replicate 3), (.replicate 1, .replicate 2)] := by decide +kernel

theorem interior_take_threeLeaves : interior threeLeafHasher (threeLeaves.take 2) =
    [(.replicate 1, .replicate 2)] := by decide +kernel

theorem mth_threeLeaves : mth threeLeafHasher (threeLeaves.take 2) = .replicate 4 ∧
    mth threeLeafHasher threeLeaves = .replicate 5 := by decide +kernel

theorem eq_of_threeLeafHasher_node {x y : Digest} :
    (threeLeafHasher.node x y = .replicate 4 → x = .replicate 1 ∧ y = .replicate 2) ∧
      (threeLeafHasher.node x y = .replicate 5 → x = .replicate 4 ∧ y = .replicate 3) := by
  have hn : Digest.replicate 4 ≠ .replicate 5 ∧ Digest.replicate 0 ≠ .replicate 4 ∧
      Digest.replicate 0 ≠ .replicate 5 := by decide
  unfold threeLeafHasher
  dsimp only
  split_ifs with hl hr
  · exact ⟨fun _ => hl, fun heq => absurd heq hn.1⟩
  · exact ⟨fun heq => absurd heq.symm hn.1, fun _ => hr⟩
  · exact ⟨fun heq => absurd heq hn.2.1, fun heq => absurd heq hn.2.2⟩

theorem collisionFree_threeLeaves : CollisionFree threeLeafHasher threeLeaves ∧
    CollisionFree threeLeafHasher (threeLeaves.take 2) := by
  constructor <;> intro a b ha x y heq
  · rw [interior_threeLeaves] at ha
    rcases mem_pair.mp ha with ha | ha <;> cases ha
    · exact eq_of_threeLeafHasher_node.2 heq
    · exact eq_of_threeLeafHasher_node.1 heq
  · rw [interior_take_threeLeaves] at ha
    cases mem_singleton.mp ha
    exact eq_of_threeLeafHasher_node.1 heq

/-! ## The verdicts -/

section Verdicts

variable (h : Hasher Digest)

/-- **Inclusion is exact**: the audit path of the leaf at `i` is accepted and, short of a second
preimage, no other leaf hash and no other path. -/
theorem verifyInclusionPath_exact {D : List Digest} {i : ℕ} {leaf : Digest}
    (hleaf : D[i]? = some leaf) :
    verifyInclusionPath h i D.length leaf ((auditPath h i D).map Digest.toWire) (mth h D).toWire =
        .ok () ∧
      (CollisionFree h D → ∀ (l : Digest) (path : List String),
        verifyInclusionPath h i D.length l path (mth h D).toWire = .ok () →
          l = leaf ∧ path = (auditPath h i D).map Digest.toWire) := by
  have hi : i < D.length := (List.getElem?_eq_some_iff.mp hleaf).1
  constructor
  · rw [verifyInclusionPath_eq_ok h hi]
    exact ⟨_, rfl, climb_rootFold h (by omega) hleaf⟩
  · intro hD l path ho
    obtain ⟨ds, rfl, hc⟩ := (verifyInclusionPath_eq_ok h hi).mp ho
    obtain ⟨hl, rfl⟩ := climb_rootFold_sound h hD (by omega) (by omega) hc
    exact ⟨Option.some.inj (hl.symm.trans hleaf), rfl⟩

theorem verifyInclusionPath_exact_threeLeaves :
    threeLeaves[2]? = some (.replicate 3) ∧
      verifyInclusionPath threeLeafHasher 2 3 (.replicate 3) [(Digest.replicate 4).toWire]
        (Digest.replicate 5).toWire = .ok () ∧
      ∀ (l : Digest) (path : List String),
        verifyInclusionPath threeLeafHasher 2 3 l path (Digest.replicate 5).toWire = .ok () →
          l = .replicate 3 ∧ path = [(Digest.replicate 4).toWire] := by
  have hp : auditPath threeLeafHasher 2 threeLeaves = [.replicate 4] := by decide +kernel
  have hl : threeLeaves[2]? = some (.replicate 3) := rfl
  have hex := verifyInclusionPath_exact threeLeafHasher hl
  rw [hp, mth_threeLeaves.2] at hex
  exact ⟨hl, hex.1, hex.2 collisionFree_threeLeaves.1⟩

/-- **When the consistency proof of an honest log is accepted**: for every old size that is a
power of two, and for every other one whose low 32 bits are neither zero nor a power of two. -/
theorem verifyConsistencyPath_proof_iff {D : List Digest} {m : ℕ} (hpos : 0 < m)
    (hlt : m < D.length) (hmax : D.length ≤ 2 ^ 53 - 1) :
    verifyConsistencyPath h m D.length ((consistencyProof h m D).map Digest.toWire)
        (mth h (D.take m)).toWire (mth h D).toWire = .ok () ↔
      m.isPowerOfTwo ∨ ¬(m % 2 ^ 32 = 0 ∨ (m % 2 ^ 32).isPowerOfTwo) := by
  rw [verifyConsistencyPath_consistencyProof h hpos hlt (by omega),
    isPowerOfTwo_iff hpos (by omega)]
  exact imp_iff_not_or.trans or_comm

theorem verifyConsistencyPath_proof_iff_threeLeaves :
    verifyConsistencyPath threeLeafHasher 2 3 [(Digest.replicate 3).toWire]
      (Digest.replicate 4).toWire (Digest.replicate 5).toWire = .ok () := by
  have hp : consistencyProof threeLeafHasher 2 threeLeaves = [.replicate 3] := by
    decide +kernel
  have hi := verifyConsistencyPath_proof_iff threeLeafHasher (D := threeLeaves) (m := 2)
    (by decide) (by decide) (by decide)
  rw [hp, mth_threeLeaves.1, mth_threeLeaves.2] at hi
  exact hi.mpr (Or.inl ⟨1, rfl⟩)

/-- **A log of `2 ^ 32 + 2` leaves whose proof from `2 ^ 32 + 1` is rejected**: the test takes the
old size for a power of two, and the retained root is put before a complete path. -/
theorem verifyConsistencyPath_rejects_proof :
    verifyConsistencyPath threeLeafHasher (2 ^ 32 + 1 : ℕ) (2 ^ 32 + 2 : ℕ)
      ((consistencyProof threeLeafHasher (2 ^ 32 + 1)
        (List.replicate (2 ^ 32 + 2) (.replicate 0))).map Digest.toWire)
      (mth threeLeafHasher (List.replicate (2 ^ 32 + 1) (.replicate 0))).toWire
      (mth threeLeafHasher (List.replicate (2 ^ 32 + 2) (.replicate 0))).toWire ≠ .ok () := by
  have hl : (replicate (2 ^ 32 + 2) (Digest.replicate 0)).length = 2 ^ 32 + 2 :=
    length_replicate
  have hi := verifyConsistencyPath_consistencyProof threeLeafHasher
    (D := replicate (2 ^ 32 + 2) (.replicate 0)) (m := 2 ^ 32 + 1) (by omega) (by omega)
    (by omega)
  rw [hl, take_replicate, show min (2 ^ 32 + 1) (2 ^ 32 + 2) = 2 ^ 32 + 1 by rfl] at hi
  rw [ne_eq, hi]
  decide

/-- **Consistency is sound**: short of a second preimage, an accepted proof shows the old root to
be that of a prefix, and so do two accepted proofs in a row. -/
theorem verifyConsistencyPath_sound :
    (∀ (D : List Digest) (m n : ℕ) (path : List String) (firstRootHash : String),
      CollisionFree h D → 0 < m → m ≤ n → D.length = n →
      verifyConsistencyPath h m n path firstRootHash (mth h D).toWire = .ok () →
        firstRootHash = (mth h (D.take m)).toWire) ∧
    (∀ (D : List Digest) (m n k : ℕ) (path path' : List String)
        (firstRootHash secondRootHash : String),
      CollisionFree h D → CollisionFree h (D.take n) → 0 < m → m ≤ n → n ≤ k → D.length = k →
      verifyConsistencyPath h m n path firstRootHash secondRootHash = .ok () →
      verifyConsistencyPath h n k path' secondRootHash (mth h D).toWire = .ok () →
        firstRootHash = (mth h (D.take m)).toWire) := by
  constructor
  · rintro D m _ path firstRootHash hD hp hle rfl ho
    exact eq_mth_take_of_verifyConsistencyPath h hD hp hle ho
  · rintro D m n _ path path' firstRootHash secondRootHash hD hDn hp hm hn rfl ho ho'
    have hs := eq_mth_take_of_verifyConsistencyPath h hD (by omega) hn ho'
    subst hs
    have hl : (D.take n).length = n := by
      rw [length_take]
      omega
    have ho'' : verifyConsistencyPath h m (D.take n).length path firstRootHash
        (mth h (D.take n)).toWire = .ok () := by rwa [hl]
    have hf := eq_mth_take_of_verifyConsistencyPath h hDn hp (by omega) ho''
    rwa [take_take, min_eq_left hm] at hf

/-- The proofs from `1` to `2` and from `2` to `3` leaves. -/
theorem verifyConsistencyPath_sound_threeLeaves :
    verifyConsistencyPath threeLeafHasher 1 2 [(Digest.replicate 2).toWire]
        (Digest.replicate 1).toWire (Digest.replicate 4).toWire = .ok () ∧
      verifyConsistencyPath threeLeafHasher 2 3 [(Digest.replicate 3).toWire]
        (Digest.replicate 4).toWire (Digest.replicate 5).toWire = .ok () ∧
      (Digest.replicate 4).toWire = (mth threeLeafHasher (threeLeaves.take 2)).toWire ∧
      (Digest.replicate 1).toWire = (mth threeLeafHasher (threeLeaves.take 1)).toWire := by
  have ho : verifyConsistencyPath threeLeafHasher 1 2 [(Digest.replicate 2).toWire]
      (Digest.replicate 1).toWire (Digest.replicate 4).toWire = .ok () := by decide +kernel
  have ho' : verifyConsistencyPath threeLeafHasher 2 3 [(Digest.replicate 3).toWire]
      (Digest.replicate 4).toWire (Digest.replicate 5).toWire = .ok () := by decide +kernel
  obtain ⟨hs, hc⟩ := verifyConsistencyPath_sound threeLeafHasher
  obtain ⟨hD, hD2⟩ := collisionFree_threeLeaves
  refine ⟨ho, ho', ?_, ?_⟩ <;> rw [← mth_threeLeaves.2] at ho'
  · exact hs threeLeaves 2 3 _ _ hD (by decide) (by decide) rfl ho'
  · exact hc threeLeaves 1 2 3 _ _ _ _ hD hD2 (by decide) (by decide) (by decide) rfl ho ho'

end Verdicts

end AcdpControlPlane
