import AcdpControlPlane.Auth.Challenge
import AcdpControlPlane.Storage.Table

/-!
# The deny-list

Revoked tokens are kept by issuer and token id until they expire, in a process-local map or in the
table `revoked_tokens` (`src/auth/in-memory-revocation.repository.ts` and
`src/auth/postgres-revocation.repository.ts`). The clock is any ordered field with a floor; its unit is
the second. JavaScript reads whole seconds, `Math.floor(Date.now() / 1000)`, and Postgres the exact
time, `extract(epoch from now())`.
-/

namespace AcdpControlPlane

open KeyedTable

inductive RevocationReason where
  | userLogout
  | adminRevoke
  | keyRotation
  | securityIncident
  | unspecified
deriving DecidableEq, Repr

structure RevocationRecord (K : Type) where
  jti : String
  sub : String
  iss : String
  exp : K
  revokedBy : String
  reason : RevocationReason
  revokedAt : Option Int

/-- The key of a record: the text of the map, or the primary key of the table. -/
inductive RevocationKey where
  | text (key : String)
  | columns (iss jti : String)
deriving DecidableEq, Repr

def keyOf (iss jti : String) : String := iss ++ "\x00" ++ jti

def revocationKey (persistence : Persistence) (iss jti : String) : RevocationKey :=
  match persistence with
  | .memory => .text (keyOf iss jti)
  | .postgres => .columns iss jti

def RevocationRecord.key {K : Type} (persistence : Persistence) (record : RevocationRecord K) :
    RevocationKey :=
  revocationKey persistence record.iss record.jti

abbrev RevocationTable (K : Type) (persistence : Persistence) :=
  KeyedTable (RevocationRecord.key (K := K) persistence)

def NulFree (text : String) : Prop := '\x00' ∉ text.toList

instance (text : String) : Decidable (NulFree text) := inferInstanceAs (Decidable (¬ _))

section Stores

variable {K : Type} [Field K] [LinearOrder K] [FloorRing K]

def nowMillis (now : K) : Int := ⌊now * 1000⌋

/-- The record fits the columns `jti varchar(64)` and `exp bigint`, and the database takes its texts. -/
def fitsColumns (record : RevocationRecord K) : Prop :=
  record.jti.length ≤ 64 ∧
    ((⌊record.exp⌋ : K) = record.exp ∧ -2 ^ 63 ≤ ⌊record.exp⌋ ∧ ⌊record.exp⌋ < 2 ^ 63) ∧
    ∀ text ∈ [record.jti, record.sub, record.iss, record.revokedBy], NulFree text

instance (record : RevocationRecord K) : Decidable (fitsColumns record) :=
  inferInstanceAs (Decidable (_ ∧ _))

def columnError : JsError := ⟨"Failed query: insert into revoked_tokens"⟩

/-- The record as it is stored. The table sets the time itself. -/
def stampedAt (persistence : Persistence) (record : RevocationRecord K) (now : K) :
    RevocationRecord K :=
  { record with
    revokedAt := match persistence with
      | .memory => some (record.revokedAt.getD (nowMillis now))
      | .postgres => some (nowMillis now) }

def revoke {persistence : Persistence} (record : RevocationRecord K) (now : K)
    (table : RevocationTable K persistence) :
    Except JsError Bool × RevocationTable K persistence :=
  if persistence = .postgres ∧ ¬ fitsColumns record then (.error columnError, table)
  else
    (.ok (table.find? (record.key persistence)).isNone,
      table.insert (stampedAt persistence record now))

def InForce (persistence : Persistence) (exp now : K) : Prop :=
  match persistence with
  | .memory => ¬ exp < (⌊now⌋ : K)
  | .postgres => exp > now

instance (persistence : Persistence) (exp now : K) : Decidable (InForce persistence exp now) :=
  match persistence with
  | .memory => inferInstanceAs (Decidable (¬ _))
  | .postgres => inferInstanceAs (Decidable (_ > _))

/-- Whether a token is revoked. The map drops a record it finds expired. -/
def isRevoked {persistence : Persistence} (iss jti : String) (now : K)
    (table : RevocationTable K persistence) : Bool × RevocationTable K persistence :=
  match table.find? (revocationKey persistence iss jti) with
  | none => (false, table)
  | some record =>
    (InForce persistence record.exp now,
      if persistence = .memory ∧ record.exp < (⌊now⌋ : K) then
        table.filter fun row => row.key persistence ≠ revocationKey persistence iss jti
      else table)

def evictExpired {persistence : Persistence} (now : K) (table : RevocationTable K persistence) :
    RevocationTable K persistence :=
  table.filter fun row => ¬ row.exp < (⌊now⌋ : K)

variable {persistence : Persistence} {table : RevocationTable K persistence}
  {record row : RevocationRecord K} {iss jti : String} {now now' exp : K}

@[simp] theorem stampedAt_key :
    (stampedAt persistence record now).key persistence = record.key persistence := rfl

theorem mem_revoke_of_new (h : (revoke record now table).1 = .ok true) :
    stampedAt persistence record now ∈ (revoke record now table).2.rows := by
  unfold revoke at h ⊢
  split at h
  · cases h
  · next hf =>
    rw [if_neg hf]
    refine mem_insert.mpr (Or.inr ⟨?_, rfl⟩)
    have hn : table.find? (record.key persistence) = none := by
      simpa using h
    intro ht
    obtain ⟨taken, hm, hk⟩ := List.mem_map.mp ht
    rw [stampedAt_key] at hk
    rw [find?_eq_some_iff.mpr ⟨hm, hk⟩] at hn
    cases hn

theorem mem_revoke_of_mem (h : row ∈ table.rows) : row ∈ (revoke record now table).2.rows := by
  unfold revoke
  split
  · exact h
  · exact mem_insert_of_mem h

theorem isRevoked_of_mem (h : row ∈ table.rows)
    (hk : row.key persistence = revocationKey persistence iss jti) :
    (isRevoked iss jti now table).1 = true ↔ InForce persistence row.exp now := by
  unfold isRevoked
  rw [find?_eq_some_iff.mpr ⟨h, hk⟩]
  exact decide_eq_true_iff

theorem mem_isRevoked_of_mem (h : row ∈ table.rows) (hl : ¬ row.exp < (⌊now⌋ : K)) :
    row ∈ (isRevoked iss jti now table).2.rows := by
  unfold isRevoked
  split
  · exact h
  · next record hf =>
    obtain ⟨hr, hk⟩ := find?_eq_some_iff.mp hf
    split
    · next hd =>
      refine mem_filter.mpr ⟨h, decide_eq_true ?_⟩
      -- another row, for this one has not expired
      intro hs
      rw [eq_of_key_eq hr h (hk.trans hs.symm)] at hd
      exact hl hd.2
    · exact h

theorem mem_evictExpired_of_mem (h : row ∈ table.rows) (hl : ¬ row.exp < (⌊now⌋ : K)) :
    row ∈ (evictExpired now table).rows :=
  mem_filter.mpr ⟨h, decide_eq_true hl⟩

theorem InForce.not_floor_lt (h : InForce persistence exp now) : ¬ exp < (⌊now⌋ : K) := by
  cases persistence with
  | memory => exact h
  | postgres => exact not_lt.mpr (le_trans (Int.floor_le now) (le_of_lt h))

end Stores

end AcdpControlPlane
