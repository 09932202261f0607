import AcdpControlPlane.Common.Paging

/-!
# Paging by a coarse cursor

Items are listed in the order of a key, in pages of at most `cap` items, as in `Common/Paging.lean`. Here
the cursor is coarser than the key: it counts whole units, and the cursor after a full page is the unit
in which the page ends. The items of that unit are listed again, except those that lie exactly at its
beginning, since a page starts strictly above its cursor.
-/

namespace Paging

open List

universe u

variable {α : Type u} (key : α → ℤ) (unit : ℤ) (cap : ℕ)

def above (rows : List α) (since : ℤ) : List α := rows.filter (unit * since < key ·)

/-- At most `cap` items, and the unit of the last of them if they are as many. -/
def coarsePage (listed : List α) : List α × Option ℤ :=
  (listed.take cap,
    if (listed.take cap).length = cap then (listed.take cap).getLast?.map (key · / unit) else none)

def coarseFetch (sort : List α → List α) (rows : List α) (since : ℤ) : List α × Option ℤ :=
  coarsePage key unit cap (sort (above key unit rows since))

inductive Asked (fetch : ℤ → List α × Option ℤ) (start : ℤ) : ℤ → Prop
  | start : Asked fetch start start
  | next {since cursor : ℤ} : Asked fetch start since → (fetch since).2 = some cursor →
      Asked fetch start cursor

/-- A page from this cursor on leaves the unit of the cursor, and does not end between two items at the
beginning of a unit. -/
structure Roomy (rows : List α) (since : ℤ) : Prop where
  leaves : (above key unit rows since).countP (key · < unit * (since + 1)) < cap
  whole : ∀ row ∈ above key unit rows since, unit ∣ key row →
    cap ≤ (above key unit rows since).countP (key · < key row) ∨
      (above key unit rows since).countP (key · ≤ key row) ≤ cap

instance (rows : List α) (since : ℤ) : Decidable (Roomy key unit cap rows since) :=
  decidable_of_iff (_ ∧ _) ⟨fun h => ⟨h.1, h.2⟩, fun h => ⟨h.leaves, h.whole⟩⟩

/-- Fewer items than a page has lie strictly within a unit, and no two items lie at the beginning of one. -/
structure Sparse (rows : List α) : Prop where
  within : ∀ row ∈ rows, ¬ unit ∣ key row →
    rows.countP (fun other => key other / unit = key row / unit ∧ ¬ unit ∣ key other) < cap
  alone : ∀ row ∈ rows, unit ∣ key row → rows.countP (key · = key row) ≤ 1

instance (rows : List α) : Decidable (Sparse key unit cap rows) :=
  decidable_of_iff (_ ∧ _) ⟨fun h => ⟨h.1, h.2⟩, fun h => ⟨h.within, h.alone⟩⟩

variable {key unit cap}

theorem mem_above {rows : List α} {since : ℤ} {row : α} :
    row ∈ above key unit rows since ↔ row ∈ rows ∧ unit * since < key row := by
  simp [above]

theorem countP_le_eq_add (items : List α) (bound : ℤ) :
    items.countP (key · ≤ bound) = items.countP (key · < bound) + items.countP (key · = bound) := by
  induction items with
  | nil => rfl
  | cons item items ih =>
    simp only [countP_cons, decide_eq_true_eq]
    rcases Int.lt_trichotomy (key item) bound with hl | heq | hg
    · rw [if_pos (Int.le_of_lt hl), if_pos hl, if_neg (Int.ne_of_lt hl)]
      omega
    · rw [if_pos (Int.le_of_eq heq), if_neg (by omega), if_pos heq]
      omega
    · rw [if_neg (by omega), if_neg (by omega), if_neg (by omega)]
      omega

theorem Sparse.roomy {rows : List α} (h : Sparse key unit cap rows) (hu : 0 < unit) (hc : 0 < cap)
    (since : ℤ) : Roomy key unit cap rows since := by
  refine ⟨?_, ?_⟩
  · -- what is above a cursor and in its unit is strictly within the unit
    have hw : (above key unit rows since).countP (key · < unit * (since + 1)) ≤
        rows.countP fun other => key other / unit = since ∧ ¬ unit ∣ key other := by
      rw [above, countP_filter]
      apply countP_mono_left
      intro row _ hr
      simp only [Bool.and_eq_true, decide_eq_true_eq] at hr ⊢
      have hdi : key row / unit = since := by
        have hlt : key row / unit < since + 1 := by
          rw [Int.ediv_lt_iff_lt_mul hu, Int.mul_comm]
          exact hr.1
        have hl : since ≤ key row / unit := by
          rw [Int.le_ediv_iff_mul_le hu, Int.mul_comm]
          exact Int.le_of_lt hr.2
        omega
      refine ⟨hdi, ?_⟩
      intro hd
      have := Int.mul_ediv_cancel' hd
      rw [hdi] at this
      omega
    by_cases hn : (rows.countP fun other => key other / unit = since ∧ ¬ unit ∣ key other) = 0
    · omega
    · obtain ⟨row, hr, hi⟩ := countP_pos_iff.mp (Nat.pos_of_ne_zero hn)
      obtain ⟨hdi, hd⟩ := of_decide_eq_true hi
      have := h.within row hr hd
      rw [hdi] at this
      omega
  · intro row hr hd
    obtain ⟨hm, -⟩ := mem_above.mp hr
    have ha : (above key unit rows since).countP (key · = key row) ≤ 1 :=
      Nat.le_trans filter_sublist.countP_le (h.alone row hm hd)
    rw [countP_le_eq_add]
    omega

namespace Coarse

/-! ## One page -/

section Page

variable {listed : List α} {cursor : ℤ}

theorem coarsePage_eq_none (hc : 0 < cap) (h : (coarsePage key unit cap listed).2 = none) :
    (coarsePage key unit cap listed).1 = listed := by
  simp only [coarsePage] at h ⊢
  split at h
  · next hf =>
    -- a full page is not empty
    have hn : listed.take cap = [] := by simpa using h
    rw [hn] at hf
    exact absurd hf.symm (Nat.ne_of_gt hc)
  · next hs =>
    apply take_of_length_le
    rw [length_take] at hs
    omega

theorem coarsePage_eq_some (hsorted : listed.Pairwise fun a b => key a ≤ key b)
    (h : (coarsePage key unit cap listed).2 = some cursor) :
    (listed.take cap).length = cap ∧ ∃ last ∈ listed.take cap, key last / unit = cursor ∧
      (∀ item ∈ listed.take cap, key item ≤ key last) ∧
      ∀ item ∈ listed.drop cap, key last ≤ key item := by
  simp only [coarsePage] at h
  split at h
  case isFalse => cases h
  case isTrue hfu =>
    obtain ⟨last, hl, rfl⟩ := Option.map_eq_some_iff.mp h
    have hm : last ∈ listed.take cap := mem_of_getLast? hl
    rw [← take_append_drop cap listed] at hsorted
    obtain ⟨hp, -, hb⟩ := pairwise_append.mp hsorted
    refine ⟨hfu, last, hm, rfl, ?_, fun item => hb last hm item⟩
    intro item hi
    obtain ⟨front, hf⟩ := getLast?_eq_some_iff.mp hl
    rw [hf] at hp hi
    rcases mem_append.mp hi with hi | hi
    · exact (pairwise_append.mp hp).2.2 item hi last (mem_singleton.mpr rfl)
    · exact Int.le_of_eq (congrArg key (mem_singleton.mp hi))

theorem countP_take_eq {p : α → Bool} (hf : (listed.take cap).length = cap)
    (h : ∀ item ∈ listed.take cap, p item = true) : (listed.take cap).countP p = cap := by
  rw [countP_eq_length.mpr h, hf]

theorem countP_lt_last {last : α} (hf : (listed.take cap).length = cap)
    (hl : last ∈ listed.take cap) (hr : ∀ item ∈ listed.drop cap, key last ≤ key item) :
    listed.countP (key · < key last) < cap := by
  have hd : (listed.drop cap).countP (key · < key last) = 0 := by
    apply countP_eq_zero.mpr
    intro item hi
    have := hr item hi
    simpa using this
  have ht : (listed.take cap).countP (key · < key last) < cap := by
    -- the last item is on the page, and is not before itself
    refine Nat.lt_of_le_of_ne (Nat.le_trans countP_le_length (Nat.le_of_eq hf)) ?_
    intro ha
    have := countP_eq_length.mp (ha.trans hf.symm) last hl
    simp at this
  rw [← take_append_drop cap listed, countP_append, hd]
  exact ht

theorem exists_cursor (key : α → ℤ) (unit : ℤ) (hc : 0 < cap) (h : cap ≤ listed.length) :
    ∃ cursor, (coarsePage key unit cap listed).2 = some cursor := by
  have hf : (listed.take cap).length = cap := by
    rw [length_take]
    omega
  have hn : listed.take cap ≠ [] := by
    intro hni
    rw [hni] at hf
    exact absurd hf.symm (Nat.ne_of_gt hc)
  refine ⟨key ((listed.take cap).getLast hn) / unit, ?_⟩
  simp [coarsePage, hf, getLast?_eq_some_getLast hn]

end Page

/-! ## The page at a cursor -/

section Fetch

variable {sort : List α → List α} {rows : List α} {since cursor : ℤ}
  (hperm : ∀ items, (sort items).Perm items)
  (hsorted : ∀ items, (sort items).Pairwise fun a b => key a ≤ key b)

include hperm in
theorem mem_of_mem_fetch {item : α} (h : item ∈ (coarseFetch key unit cap sort rows since).1) :
    item ∈ above key unit rows since :=
  (hperm _).mem_iff.mp (mem_of_mem_take h)

include hperm in
theorem countP_split (cap : ℕ) (p : α → Bool) :
    (above key unit rows since).countP p =
      ((sort (above key unit rows since)).take cap).countP p +
        ((sort (above key unit rows since)).drop cap).countP p := by
  rw [← countP_append, take_append_drop, (hperm _).countP_eq]

include hperm hsorted in
theorem since_le_cursor (hu : 0 < unit)
    (h : (coarseFetch key unit cap sort rows since).2 = some cursor) : since ≤ cursor := by
  obtain ⟨-, last, hl, rfl, -⟩ := coarsePage_eq_some (hsorted _) h
  have ha := (mem_above.mp (mem_of_mem_fetch hperm hl)).2
  rw [Int.le_ediv_iff_mul_le hu, Int.mul_comm]
  exact Int.le_of_lt ha

include hsorted in
include hperm hsorted in
theorem roomy_fetch (hu : 0 < unit) (hrm : Roomy key unit cap rows since)
    (h : (coarseFetch key unit cap sort rows since).2 = some cursor) :
    since < cursor ∧ ∀ row ∈ above key unit rows since,
      row ∈ (coarseFetch key unit cap sort rows since).1 ∨ row ∈ above key unit rows cursor := by
  obtain ⟨hf, last, hla, rfl, hp, hre⟩ := coarsePage_eq_some (hsorted _) h
  have hl := mem_of_mem_fetch hperm hla
  refine ⟨?_, ?_⟩
  · -- a page within the unit of the cursor would be a page of too many items of it
    by_contra hle
    have hen : key last < unit * (since + 1) := by
      rw [Int.mul_comm, ← Int.ediv_lt_iff_lt_mul hu]
      omega
    have ha := countP_take_eq hf fun item hi =>
      decide_eq_true (Int.lt_of_le_of_lt (hp item hi) hen)
    have hlea := hrm.leaves
    rw [countP_split hperm cap, ha] at hlea
    omega
  · intro row hr
    by_cases hc : unit * (key last / unit) < key row
    · exact Or.inr (mem_above.mpr ⟨(mem_above.mp hr).1, hc⟩)
    · left
      rw [← (hperm _).mem_iff, ← take_append_drop cap (sort _), mem_append] at hr
      rcases hr with hr | hr
      · exact hr
      · -- the row follows the page, so it lies with the last item at the beginning of a unit
        have hb : unit * (key last / unit) ≤ key last := Int.mul_ediv_self_le (Int.ne_of_gt hu)
        have hk : key row = key last := by
          have := hre row hr
          omega
        have hd : unit ∣ key last := ⟨key last / unit, by have := hre row hr; omega⟩
        rcases hrm.whole last hl hd with hbe | hup
        · have hfe := countP_lt_last hf hla hre
          rw [(hperm _).countP_eq] at hfe
          omega
        · -- the page is full of items up to the last, and the row would be one more
          have ha := countP_take_eq hf fun item hi => decide_eq_true (hp item hi)
          have hm : 0 < ((sort (above key unit rows since)).drop cap).countP (key · ≤ key last) :=
            countP_pos_iff.mpr ⟨row, hr, decide_eq_true (Int.le_of_eq hk)⟩
          rw [countP_split hperm cap, ha] at hup
          omega

include hperm hsorted in
theorem cursor_of_not_leaves (hu : 0 < unit) (hca : 0 < cap)
    (h : cap ≤ (above key unit rows since).countP (key · < unit * (since + 1))) :
    (coarseFetch key unit cap sort rows since).2 = some since := by
  have hlen : cap ≤ (sort (above key unit rows since)).length := by
    rw [(hperm _).length_eq]
    exact Nat.le_trans h countP_le_length
  obtain ⟨cursor, hc⟩ := exists_cursor key unit hca hlen
  obtain ⟨hf, last, hl, rfl, -, hr⟩ := coarsePage_eq_some (hsorted _) hc
  have hen : key last < unit * (since + 1) := by
    -- otherwise the items of the unit come before the last item, and are too few
    by_contra hle
    have hfe := countP_lt_last hf hl hr
    rw [(hperm _).countP_eq] at hfe
    have hm : (above key unit rows since).countP (key · < unit * (since + 1)) ≤
        (above key unit rows since).countP (key · < key last) := by
      apply countP_mono_left
      intro item _ hi
      simp only [decide_eq_true_eq] at hi ⊢
      omega
    omega
  have hle := since_le_cursor hperm hsorted hu hc
  have hlt : key last / unit < since + 1 := by
    rw [Int.ediv_lt_iff_lt_mul hu, Int.mul_comm]
    exact hen
  have heq : key last / unit = since := by omega
  rw [← heq] at hc ⊢
  exact hc

include hperm hsorted in
theorem exists_skipped (hca : 0 < cap) (hn : rows.Nodup) {row : α}
    (hdv : unit ∣ key row) (hb : (above key unit rows since).countP (key · < key row) < cap)
    (hu : cap < (above key unit rows since).countP (key · ≤ key row)) :
    ∃ cursor, (coarseFetch key unit cap sort rows since).2 = some cursor ∧
      ∃ skipped ∈ above key unit rows since,
        skipped ∉ (coarseFetch key unit cap sort rows since).1 ∧ key skipped = unit * cursor := by
  have hlen : cap ≤ (sort (above key unit rows since)).length := by
    rw [(hperm _).length_eq]
    exact Nat.le_trans (Nat.le_of_lt hu) countP_le_length
  obtain ⟨cursor, hc⟩ := exists_cursor key unit hca hlen
  obtain ⟨hf, last, hlas, rfl, hp, hr⟩ := coarsePage_eq_some (hsorted _) hc
  -- the page has no room for all items up to the row
  have hd : 0 < ((sort (above key unit rows since)).drop cap).countP (key · ≤ key row) := by
    have ht : ((sort (above key unit rows since)).take cap).countP (key · ≤ key row) ≤ cap :=
      Nat.le_trans countP_le_length (Nat.le_of_eq hf)
    rw [countP_split hperm cap] at hu
    omega
  obtain ⟨skipped, hs, hle⟩ := countP_pos_iff.mp hd
  have hla := hr skipped hs
  -- and is not filled by the items before the row
  have hro : key row ≤ key last := by
    by_contra hlt
    have ha := countP_take_eq hf (p := (key · < key row)) fun item hi =>
      decide_eq_true (by have := hp item hi; omega)
    rw [countP_split hperm cap, ha] at hb
    omega
  have hke : key skipped = key last := by
    simp only [decide_eq_true_eq] at hle
    omega
  have hk : key last = key row := by
    simp only [decide_eq_true_eq] at hle
    omega
  refine ⟨_, hc, skipped, (hperm _).mem_iff.mp (mem_of_mem_drop hs), ?_, ?_⟩
  · have hl : (sort (above key unit rows since)).Nodup :=
      (hperm _).nodup_iff.mpr (hn.filter _)
    exact fun hm => disjoint_take_drop hl (Nat.le_refl cap) hm hs
  · rw [hke, hk, Int.mul_ediv_cancel' hdv]

/-! ## Page after page -/

variable {fetch : ℤ → List α × Option ℤ} {start : ℤ} {items : List α} {fuel : ℕ}

theorem collect_of_same_cursor (h : (fetch since).2 = some since) : collect fetch fuel since = none := by
  induction fuel with
  | zero => rfl
  | succ fuel ih =>
    rw [collect]
    cases hf : fetch since with
    | mk page next =>
      rw [hf] at h
      cases h
      simp [ih]

theorem collect_of_cursor (hc : collect fetch fuel since = some items)
    (h : (fetch since).2 = some cursor) :
    ∃ fuel' items', collect fetch fuel' cursor = some items' ∧ items = (fetch since).1 ++ items' := by
  cases fuel with
  | zero => cases hc
  | succ fuel =>
    rw [collect] at hc
    cases hf : fetch since with
    | mk page next =>
      rw [hf] at h hc
      cases h
      obtain ⟨items', hi', rfl⟩ := Option.map_eq_some_iff.mp hc
      exact ⟨fuel, items', hi', rfl⟩

include hperm hsorted in
theorem mem_above_of_mem_collect (hu : 0 < unit) {item : α}
    (h : collect (coarseFetch key unit cap sort rows) fuel since = some items) (hi : item ∈ items) :
    item ∈ above key unit rows since := by
  induction fuel generalizing since items with
  | zero => cases h
  | succ fuel ih =>
    rw [collect] at h
    cases hf : coarseFetch key unit cap sort rows since with
    | mk page next =>
      have hp : ∀ item ∈ page, item ∈ above key unit rows since := by
        intro item hi
        apply mem_of_mem_fetch hperm
        rw [hf]
        exact hi
      rw [hf] at h
      cases next with
      | none =>
        cases h
        exact hp item hi
      | some cursor =>
        obtain ⟨items', hi', rfl⟩ := Option.map_eq_some_iff.mp h
        rcases mem_append.mp hi with hi | hi
        · exact hp item hi
        · -- the next cursor is not before this one
          obtain ⟨hr, hlt⟩ := mem_above.mp (ih hi' hi)
          have hl := since_le_cursor hperm hsorted hu (congrArg Prod.snd hf)
          have hm := Int.mul_le_mul_of_nonneg_left hl (Int.le_of_lt hu)
          exact mem_above.mpr ⟨hr, by omega⟩

include hperm hsorted in
theorem Asked.collect_split (hu : 0 < unit)
    (h : collect (coarseFetch key unit cap sort rows) fuel start = some items)
    (ha : Asked (coarseFetch key unit cap sort rows) start since) :
    ∃ before fuel' items', collect (coarseFetch key unit cap sort rows) fuel' since = some items' ∧
      items = before ++ items' ∧ ∀ item ∈ before, key item < unit * (since + 1) := by
  induction ha with
  | start => exact ⟨[], fuel, items, h, rfl, forall_mem_nil _⟩
  | @next since cursor ha hc ih =>
    obtain ⟨before, fuel', items', hi', rfl, hb⟩ := ih
    obtain ⟨fuel'', items'', hi'', rfl⟩ := collect_of_cursor hi' hc
    refine ⟨before ++ _, fuel'', items'', hi'', (append_assoc _ _ _).symm, ?_⟩
    intro item hi
    rcases mem_append.mp hi with hi | hi
    · have hle := since_le_cursor hperm hsorted hu hc
      have hm := Int.mul_le_mul_of_nonneg_left (Int.add_le_add_right hle 1) (Int.le_of_lt hu)
      exact Int.lt_of_lt_of_le (hb item hi) hm
    · obtain ⟨-, last, -, rfl, hp, -⟩ := coarsePage_eq_some (hsorted _) hc
      have hl := Int.lt_ediv_add_one_mul_self (key last) hu
      rw [Int.mul_comm]
      exact Int.lt_of_le_of_lt (hp item hi) hl

include hperm hsorted in
theorem start_le_of_asked (hu : 0 < unit)
    (ha : Asked (coarseFetch key unit cap sort rows) start since) : start ≤ since := by
  induction ha with
  | start => exact Int.le_refl _
  | next _ hc ih => exact Int.le_trans ih (since_le_cursor hperm hsorted hu hc)

def later (key : α → ℤ) (unit : ℤ) (rows : List α) (since : ℤ) : List α :=
  rows.filter (since < key · / unit)

include hperm hsorted in
theorem length_later_lt (hlt : since < cursor)
    (h : (coarseFetch key unit cap sort rows since).2 = some cursor) :
    (later key unit rows cursor).length < (later key unit rows since).length := by
  obtain ⟨-, last, hl, hu, -⟩ := coarsePage_eq_some (hsorted _) h
  have hr := (mem_above.mp (mem_of_mem_fetch hperm hl)).1
  have hf : later key unit rows cursor =
      (later key unit rows since).filter (cursor < key · / unit) := by
    unfold later
    rw [filter_filter]
    refine filter_congr fun item _ => ?_
    by_cases hi : cursor < key item / unit
    · simp [hi, Int.lt_trans hlt hi]
    · simp [hi]
  rw [hf, length_filter_lt_length_iff_exists]
  refine ⟨last, mem_filter.mpr ⟨hr, ?_⟩, ?_⟩
  · simpa [hu] using hlt
  · simp [hu]

include hperm hsorted in
theorem collect_ends (hu : 0 < unit) (hca : 0 < cap)
    (hrm : ∀ cursor, Asked (coarseFetch key unit cap sort rows) start cursor →
      Roomy key unit cap rows cursor) (ha : Asked (coarseFetch key unit cap sort rows) start since) :
    ∃ fuel items, collect (coarseFetch key unit cap sort rows) fuel since = some items ∧
      ∀ row ∈ above key unit rows since, row ∈ items := by
  induction hn : (later key unit rows since).length using Nat.strongRecOn generalizing since with
  | ind n ih =>
    cases hc : (coarseFetch key unit cap sort rows since).2 with
    | none =>
      refine ⟨1, (coarseFetch key unit cap sort rows since).1, ?_, ?_⟩
      · rw [collect]
        cases hf : coarseFetch key unit cap sort rows since with
        | mk page next =>
          rw [hf] at hc
          cases hc
          rfl
      · intro row hr
        have hl := coarsePage_eq_none hca hc
        rw [coarseFetch, hl]
        exact (hperm _).mem_iff.mpr hr
    | some cursor =>
      obtain ⟨hlt, hal⟩ := roomy_fetch hperm hsorted hu (hrm since ha) hc
      have hle := length_later_lt hperm hsorted hlt hc
      obtain ⟨fuel, items, hco, hi⟩ :=
        ih _ (hn ▸ hle) (ha.next hc) rfl
      refine ⟨fuel + 1, (coarseFetch key unit cap sort rows since).1 ++ items, ?_, ?_⟩
      · rw [collect]
        cases hf : coarseFetch key unit cap sort rows since with
        | mk page next =>
          rw [hf] at hc
          cases hc
          simp [hco]
      · intro row hr
        rcases hal row hr with hp | hab
        · exact mem_append_left _ hp
        · exact mem_append_right _ (hi row hab)

include hperm hsorted in
theorem roomy_of_collect (hu : 0 < unit) (hc : 0 < cap) (hn : rows.Nodup)
    (h : collect (coarseFetch key unit cap sort rows) fuel start = some items)
    (hal : ∀ row ∈ above key unit rows start, row ∈ items)
    (ha : Asked (coarseFetch key unit cap sort rows) start since) :
    Roomy key unit cap rows since := by
  obtain ⟨before, fuel', items', hi', rfl, hb⟩ := Asked.collect_split hperm hsorted hu h ha
  have hlea : (above key unit rows since).countP (key · < unit * (since + 1)) < cap := by
    by_contra hma
    have hsa := cursor_of_not_leaves hperm hsorted hu hc (Nat.le_of_not_lt hma)
    rw [collect_of_same_cursor hsa] at hi'
    cases hi'
  refine ⟨hlea, ?_⟩
  intro row hr hd
  by_contra hs
  rw [not_or, Nat.not_le, Nat.not_le] at hs
  obtain ⟨cursor, hcu, skipped, hsk, hp, hk⟩ :=
    exists_skipped hperm hsorted hc hn hd hs.1 hs.2
  obtain ⟨fuel'', items'', hi'', rfl⟩ := collect_of_cursor hi' hcu
  have hst : skipped ∈ above key unit rows start := by
    obtain ⟨hm, hl⟩ := mem_above.mp hsk
    have hle := start_le_of_asked hperm hsorted hu ha
    have hmu := Int.mul_le_mul_of_nonneg_left hle (Int.le_of_lt hu)
    exact mem_above.mpr ⟨hm, by omega⟩
  -- the skipped item lies at the beginning of a later unit, and the cursor is that unit
  have hla : since < cursor := by
    have hl := (mem_above.mp hsk).2
    rw [hk] at hl
    exact Int.lt_of_mul_lt_mul_left hl (Int.le_of_lt hu)
  rcases mem_append.mp (hal skipped hst) with hm | hm
  · have hmu := Int.mul_le_mul_of_nonneg_left (Int.add_one_le_of_lt hla) (Int.le_of_lt hu)
    have := hb skipped hm
    omega
  · rcases mem_append.mp hm with hm | hm
    · exact hp hm
    · have hab := (mem_above.mp (mem_above_of_mem_collect hperm hsorted hu hi'' hm)).2
      rw [hk] at hab
      exact Int.lt_irrefl _ hab

include hperm hsorted in
theorem collect_complete_iff (hu : 0 < unit) (hc : 0 < cap) (hn : rows.Nodup) :
    (∃ fuel items, collect (coarseFetch key unit cap sort rows) fuel start = some items ∧
        ∀ row ∈ above key unit rows start, row ∈ items) ↔
      ∀ since, Asked (coarseFetch key unit cap sort rows) start since →
        Roomy key unit cap rows since := by
  constructor
  · rintro ⟨fuel, items, hco, hal⟩ since ha
    exact roomy_of_collect hperm hsorted hu hc hn hco hal ha
  · intro hr
    exact collect_ends hperm hsorted hu hc hr .start

end Fetch

end Coarse

end Paging
