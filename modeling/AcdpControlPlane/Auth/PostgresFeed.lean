import AcdpControlPlane.Auth.Feed
import AcdpControlPlane.Common.CoarseCursor

/-!
# The revocation feed of the table

`listSince` of `src/auth/postgres-revocation.repository.ts`. The table keeps `revoked_at` in microseconds,
the cursor of the feed is in milliseconds, and a page is cut at its limit. Unlike the map, the table does
not extend a page to the end of its last millisecond: what shares that millisecond with the last entry
is meant to be listed again on the next page, because it lies above the whole millisecond.
-/

namespace AcdpControlPlane

open Paging

/-- A row of `revoked_tokens`. -/
structure RevokedTokenRow (K : Type) where
  jti : String
  sub : String
  iss : String
  exp : K
  revokedAt : Int
  revokedBy : String
  reason : Option RevocationReason

namespace RevokedTokenRow

variable {K : Type}

def key (row : RevokedTokenRow K) : String × String := (row.iss, row.jti)

/-- The record of a row. A `Date` has milliseconds only. -/
def record (row : RevokedTokenRow K) : RevocationRecord K where
  jti := row.jti
  sub := row.sub
  iss := row.iss
  exp := row.exp
  revokedBy := row.revokedBy
  reason := row.reason.getD .unspecified
  revokedAt := some (row.revokedAt / 1000)

/-- `ORDER BY revoked_at ASC, jti ASC`, by the collation of the database. -/
def selectedBefore (collation : LocaleOrder) (a b : RevokedTokenRow K) : Bool :=
  Paging.byKeyThen revokedAt (fun a b => collation.le a.jti b.jti) a b

end RevokedTokenRow

/-- A page of the revocations after a time, `revoked_at > to_timestamp(sinceMs / 1000.0)`. -/
def PostgresRevocationRepository.listSince {K : Type} (collation : LocaleOrder) (limit : Int)
    (table : KeyedTable (RevokedTokenRow.key (K := K))) (sinceMs : Int) :
    List (RevocationRecord K) × Option Int :=
  let cap := pageCap limit
  let rows := table.rows.filter (1000 * sinceMs < ·.revokedAt)
  let entries := ((rows.mergeSort (RevokedTokenRow.selectedBefore collation)).take cap).map
    RevokedTokenRow.record
  -- a page that is not full is the last one
  (entries, if entries.length = cap then entries.getLast?.bind (·.revokedAt) else none)

/-- The feed from the epoch on ends, and has listed every revocation after the epoch. -/
def ListsAll {K : Type} (collation : LocaleOrder) (limit : Int)
    (table : KeyedTable (RevokedTokenRow.key (K := K))) : Prop :=
  ∃ calls entries,
    Paging.collect (PostgresRevocationRepository.listSince collation limit table) calls 0 = some entries ∧
      ∀ row ∈ table.rows, 0 < row.revokedAt → row.record ∈ entries

section Listing

variable {K : Type} {collation : LocaleOrder} {limit : Int}
  {table : KeyedTable (RevokedTokenRow.key (K := K))}

theorem pageCap_pos (limit : Int) : 0 < pageCap limit := by
  unfold pageCap
  omega

theorem pairwise_selected (collation : LocaleOrder) (rows : List (RevokedTokenRow K)) :
    (rows.mergeSort (RevokedTokenRow.selectedBefore collation)).Pairwise
      fun a b => a.revokedAt ≤ b.revokedAt :=
  pairwise_mergeSort_byKeyThen (fun a b => collation.le a.jti b.jti)
    (fun _ _ _ => collation.trans _ _ _) (fun _ _ => collation.total _ _) rows

def fetchRows (collation : LocaleOrder) (limit : Int) (rows : List (RevokedTokenRow K)) :
    Int → List (RevokedTokenRow K) × Option Int :=
  Paging.coarseFetch RevokedTokenRow.revokedAt 1000 (pageCap limit)
    (·.mergeSort (RevokedTokenRow.selectedBefore collation)) rows

theorem listSince_eq_fetchRows (since : Int) :
    PostgresRevocationRepository.listSince collation limit table since =
      ((fetchRows collation limit table.rows since).1.map RevokedTokenRow.record,
        (fetchRows collation limit table.rows since).2) := by
  simp only [PostgresRevocationRepository.listSince, fetchRows, coarseFetch, coarsePage,
    above, List.length_map, List.getLast?_map, Prod.mk.injEq, true_and]
  cases (List.take _ _).getLast? with
  | none => rfl
  | some last => rfl

theorem record_mem_map_iff {row : RevokedTokenRow K} {rows : List (RevokedTokenRow K)}
    (hrow : row ∈ table.rows) (hro : ∀ other ∈ rows, other ∈ table.rows) :
    row.record ∈ rows.map RevokedTokenRow.record ↔ row ∈ rows := by
  constructor
  · intro h
    obtain ⟨other, ho, hr⟩ := List.mem_map.mp h
    have hk : other.key = row.key :=
      Prod.ext (congrArg RevocationRecord.iss hr) (congrArg RevocationRecord.jti hr)
    rw [← table.eq_of_key_eq (hro other ho) hrow hk]
    exact ho
  · exact List.mem_map_of_mem

theorem asked_listSince_iff {since : Int} :
    Paging.Asked (PostgresRevocationRepository.listSince collation limit table) 0 since ↔
      Paging.Asked (fetchRows collation limit table.rows) 0 since := by
  constructor
  · intro h
    induction h with
    | start => exact .start
    | next _ hc ih =>
      rw [listSince_eq_fetchRows] at hc
      exact ih.next hc
  · intro h
    induction h with
    | start => exact .start
    | next _ hc ih =>
      refine ih.next ?_
      rw [listSince_eq_fetchRows]
      exact hc

theorem listsAll_iff_rows : ListsAll collation limit table ↔
    ∃ calls rows, Paging.collect (fetchRows collation limit table.rows) calls 0 = some rows ∧
      ∀ row ∈ Paging.above RevokedTokenRow.revokedAt 1000 table.rows 0, row ∈ rows := by
  have hco := collect_map (@listSince_eq_fetchRows K collation limit table)
  have hro : ∀ {calls rows}, collect (fetchRows collation limit table.rows) calls 0 = some rows →
      ∀ row ∈ rows, row ∈ table.rows := by
    intro calls rows h row hr
    exact (mem_above.mp (Coarse.mem_above_of_mem_collect
      (fun items => List.mergeSort_perm items _) (pairwise_selected collation) (by decide) h hr)).1
  unfold ListsAll
  simp only [hco, mem_above, Int.mul_zero]
  constructor
  · rintro ⟨calls, entries, hen, ha⟩
    obtain ⟨rows, hc, rfl⟩ := Option.map_eq_some_iff.mp hen
    refine ⟨calls, rows, hc, ?_⟩
    rintro row ⟨hr, hp⟩
    exact (record_mem_map_iff hr (hro hc)).mp (ha row hr hp)
  · rintro ⟨calls, rows, hc, ha⟩
    refine ⟨calls, _, Option.map_eq_some_iff.mpr ⟨rows, hc, rfl⟩, ?_⟩
    intro row hr hp
    exact List.mem_map_of_mem (ha row ⟨hr, hp⟩)

theorem roomy_of_listsAll (h : ListsAll collation limit table) {since : Int}
    (ha : Paging.Asked (PostgresRevocationRepository.listSince collation limit table) 0 since) :
    Paging.Roomy RevokedTokenRow.revokedAt 1000 (pageCap limit) table.rows since := by
  obtain ⟨calls, rows, hc, hal⟩ := listsAll_iff_rows.mp h
  exact Coarse.roomy_of_collect (fun items => List.mergeSort_perm items _)
    (pairwise_selected collation) (by decide) (pageCap_pos limit) (List.Nodup.of_map _ table.nodup)
    hc hal (asked_listSince_iff.mp ha)

/-- **The feed of the table ends and lists every revocation, exactly if every cursor asked for is
roomy**: fewer revocations than a page has lie strictly within its millisecond, and the page from it on
does not end between two revocations on the same whole millisecond. -/
theorem listsAll_iff_roomy : ListsAll collation limit table ↔
    ∀ since, Paging.Asked (PostgresRevocationRepository.listSince collation limit table) 0 since →
      Paging.Roomy RevokedTokenRow.revokedAt 1000 (pageCap limit) table.rows since := by
  simp only [listsAll_iff_rows, asked_listSince_iff]
  exact Coarse.collect_complete_iff (fun items => List.mergeSort_perm items _)
    (pairwise_selected collation) (by decide) (pageCap_pos limit) (List.Nodup.of_map _ table.nodup)

end Listing

/-- Revocations of an issuer at the given microseconds. -/
def revokedTimes (times : List (String × Int)) : List (RevokedTokenRow Int) :=
  times.map fun time => ⟨time.1, "did:web:a", "peer", 100, time.2, "admin", none⟩

/-- Three pages: the first ends on a whole millisecond, and the second within one. -/
theorem listsAll_spread :
    ListsAll codeOrder 2 ⟨revokedTimes [("c", 1500), ("a", 500), ("b", 1000), ("d", 2250)], by decide⟩ := by
  have hs : Sparse RevokedTokenRow.revokedAt 1000 (pageCap 2)
      (revokedTimes [("c", 1500), ("a", 500), ("b", 1000), ("d", 2250)]) := by decide
  exact listsAll_iff_roomy.mpr fun since _ => hs.roomy (by decide) (by decide) since

/-- A page within a millisecond, and a page that ends within a group on a whole millisecond. -/
theorem not_listsAll_crowded :
    ¬ ListsAll codeOrder 1 ⟨revokedTimes [("a", 1500)], by decide⟩ ∧
      ¬ ListsAll codeOrder 1 ⟨revokedTimes [("a", 1000), ("b", 1000)], by decide⟩ := by
  constructor
  · -- the page from the epoch on ends in the first millisecond, and so does the page from there on
    intro h
    have ha : Asked (PostgresRevocationRepository.listSince codeOrder 1
        ⟨revokedTimes [("a", 1500)], by decide⟩) 0 1 := by
      refine .next .start ?_
      simp [PostgresRevocationRepository.listSince, revokedTimes, pageCap, RevokedTokenRow.record]
    exact absurd (roomy_of_listsAll h ha) (by decide)
  · intro h
    exact absurd (roomy_of_listsAll h .start) (by decide)

end AcdpControlPlane
