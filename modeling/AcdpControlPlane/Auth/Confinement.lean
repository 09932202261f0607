import AcdpControlPlane.Auth.Poller
import AcdpControlPlane.Common.Unwinding

/-!
# What a feed can revoke

All feeds write into one store, next to the revocations of the control plane's own tokens. A feed is to
revoke tokens of its issuer and no others, whatever its peer serves.
-/

namespace AcdpControlPlane

/-! ## Keys -/

theorem iss_eq_of_revocationKey_eq {persistence : Persistence} {iss iss' jti jti' : String}
    (hi : NulFree iss) (hi' : NulFree iss')
    (h : revocationKey persistence iss jti = revocationKey persistence iss' jti') : iss = iss' := by
  cases persistence with
  | postgres =>
    cases h
    rfl
  | memory =>
    have ht := congrArg String.toList (RevocationKey.text.inj h)
    have hj : ∀ a b : String, (keyOf a b).toList = a.toList ++ '\x00' :: b.toList := by
      simp [keyOf]
    rw [hj, hj] at ht
    exact String.toList_inj.mp (Separated.append_cons_inj hi hi' ht).1

section Rows

variable {K : Type} [Field K] [LinearOrder K] [FloorRing K] (platform : FeedPlatform K)
  {persistence : Persistence}

/-! ## Operations on one row -/

def observeRevoke (persistence : Persistence) (key : RevocationKey) (record : RevocationRecord K)
    (now : K) (fault : Fault) (row : Option (RevocationRecord K)) : Option (RevocationRecord K) :=
  if fault ≠ .lost ∧ ¬(persistence = .postgres ∧ ¬fitsColumns record) ∧ record.key persistence = key then
    some (row.getD (stampedAt persistence record now))
  else row

def StoreOp.observe (persistence : Persistence) (key : RevocationKey)
    (row : Option (RevocationRecord K)) : StoreOp K → Option (RevocationRecord K)
  | .revoke record now fault => observeRevoke persistence key record now fault row
  | .evictExpired now => row.filter fun row => ¬row.exp < (⌊now⌋ : K)
  | .isRevoked iss jti now =>
    if revocationKey persistence iss jti = key then
      row.filter fun row => ¬(persistence = .memory ∧ row.exp < (⌊now⌋ : K))
    else row
  | .applyEntry issuer e now fault =>
    match acceptedRecord platform issuer e with
    | none => row
    | some record => observeRevoke persistence key record now fault row

variable {platform} {table : RevocationTable K persistence} {key : RevocationKey}

theorem find?_revokeUnder {fault : Fault} {record : RevocationRecord K} {now : K} :
    (revokeUnder fault record now table).2.find? key =
      observeRevoke persistence key record now fault (table.find? key) := by
  unfold observeRevoke
  by_cases hl : fault = .lost
  · subst hl
    rfl
  · rw [revokeUnder_snd hl]
    unfold revoke
    by_cases hr : persistence = .postgres ∧ ¬fitsColumns record
    · rw [if_pos hr, if_neg fun h => h.2.1 hr]
    · rw [if_neg hr, KeyedTable.find?_insert_eq, stampedAt_key]
      simp only [ne_eq, hl, hr, not_false_eq_true, true_and]

omit [Field K] [LinearOrder K] [FloorRing K] in
theorem find?_filter_key_ne {key' : RevocationKey} (h : key' ≠ key) :
    (table.filter fun row => row.key persistence ≠ key').find? key = table.find? key := by
  rw [KeyedTable.find?_filter]
  cases hf : table.find? key with
  | none => rfl
  | some row =>
    have hk := (KeyedTable.find?_eq_some_iff.mp hf).2
    apply Option.filter_some_pos
    rw [hk]
    exact decide_eq_true h.symm

theorem find?_isRevoked {iss jti : String} {now : K} :
    (isRevoked iss jti now table).2.find? key =
      if revocationKey persistence iss jti = key then
        (table.find? key).filter fun row => ¬(persistence = .memory ∧ row.exp < (⌊now⌋ : K))
      else table.find? key := by
  unfold isRevoked
  by_cases hk : revocationKey persistence iss jti = key
  · rw [if_pos hk, hk]
    cases hf : table.find? key with
    | none => exact hf
    | some row =>
      by_cases hex : persistence = .memory ∧ row.exp < (⌊now⌋ : K)
      · have hs := (KeyedTable.find?_eq_some_iff.mp hf).2
        simp only [if_pos hex]
        rw [KeyedTable.find?_filter, hf, Option.filter_some_neg (by simp [hs]),
          Option.filter_some_neg (by simp [hex])]
      · simp only [if_neg hex]
        rw [hf, Option.filter_some_pos (by simp [hex])]
  · rw [if_neg hk]
    cases table.find? (revocationKey persistence iss jti) with
    | none => rfl
    | some row =>
      dsimp only
      split
      · exact find?_filter_key_ne hk
      · rfl

theorem find?_next (op : StoreOp K) :
    (StoreOp.next platform table op).find? key =
      StoreOp.observe platform persistence key (table.find? key) op := by
  cases op with
  | revoke record now fault => exact find?_revokeUnder
  | evictExpired now => exact KeyedTable.find?_filter
  | isRevoked iss jti now => exact find?_isRevoked
  | applyEntry issuer e now fault =>
    simp only [StoreOp.next, StoreOp.observe, applyWireEntry]
    cases acceptedRecord platform issuer e with
    | none => rfl
    | some record => exact find?_revokeUnder

/-! ## Operations of a feed -/

def StoreOp.isOfFeed (issuer : String) : StoreOp K → Bool
  | .applyEntry issuer' _ _ _ => issuer' = issuer
  | _ => false

omit [FloorRing K] in
theorem iss_of_acceptedRecord {issuer : String} {e : WireEntry} {record : RevocationRecord K}
    (h : acceptedRecord platform issuer e = some record) : record.iss = issuer := by
  unfold acceptedRecord at h
  split at h
  · cases h
  · next ho =>
    split at h
    · cases h
    · split at h
      · cases h
      · cases h
        -- the entry names the issuer of the feed, or none
        by_cases hn : e.iss ≠ ""
        · rw [importedRecord, if_pos hn]
          by_contra hf
          exact ho ⟨hn, hf⟩
        · rw [importedRecord, if_neg hn]

variable {iss jti issuer : String}

theorem observe_of_isOfFeed (hi : NulFree issuer) (his : NulFree iss) (hot : iss ≠ issuer)
    {op : StoreOp K} (ho : op.isOfFeed issuer) {row : Option (RevocationRecord K)} :
    StoreOp.observe platform persistence (revocationKey persistence iss jti) row op = row := by
  cases op with
  | applyEntry issuer' e now fault =>
    obtain rfl : issuer' = issuer := of_decide_eq_true ho
    simp only [StoreOp.observe]
    cases ha : acceptedRecord platform issuer' e with
    | none => rfl
    | some record =>
      apply if_neg
      rintro ⟨-, -, hk⟩
      have hr := iss_of_acceptedRecord ha
      unfold RevocationRecord.key at hk
      rw [hr] at hk
      exact hot (iss_eq_of_revocationKey_eq hi his hk).symm
  | _ => cases ho

theorem find?_runOps_filter (hi : NulFree issuer) (his : NulFree iss) (ho : iss ≠ issuer)
    (ops : List (StoreOp K)) :
    (runOps platform ops table).find? (revocationKey persistence iss jti) =
      (runOps platform (ops.filter (!StoreOp.isOfFeed issuer ·)) table).find?
        (revocationKey persistence iss jti) := by
  apply Unwinding.view_foldl_filter fun table : RevocationTable K persistence =>
    table.find? (revocationKey persistence iss jti)
  · intro table op hop
    rw [find?_next, observe_of_isOfFeed hi his ho hop]
  · intro table table' op h
    rw [find?_next, find?_next, h]
  · rfl

theorem isRevoked_congr {table' : RevocationTable K persistence} {now : K}
    (h : table.find? (revocationKey persistence iss jti) =
      table'.find? (revocationKey persistence iss jti)) :
    (isRevoked iss jti now table).1 = (isRevoked iss jti now table').1 := by
  unfold isRevoked
  rw [h]
  split <;> rfl

theorem isRevoked_runOps_filter (hi : NulFree issuer) (his : NulFree iss)
    (ho : iss ≠ issuer) (ops : List (StoreOp K)) (now : K) :
    (isRevoked iss jti now (runOps platform ops table)).1 =
      (isRevoked iss jti now
        (runOps platform (ops.filter (!StoreOp.isOfFeed issuer ·)) table)).1 :=
  isRevoked_congr (find?_runOps_filter hi his ho ops)

end Rows

/-! ## Polls -/

section Polls

variable {K : Type} [Field K] [LinearOrder K] [FloorRing K] (platform : FeedPlatform K)
  (isDevelopment : Bool) {persistence : Persistence} (feed : RevocationFeedConfig)

def entryOps (issuer : String) (calls : ℕ → EntryCall K) : ℕ → List WireEntry → List (StoreOp K)
  | _, [] => []
  | i, e :: es =>
    (calls i).meanwhile ++
      .applyEntry issuer e (calls i).now (calls i).fault :: entryOps issuer calls (i + 1) es

def pollOps (input : PollInput K) (s : PollerState K persistence) : List (StoreOp K) :=
  match fetchOnce platform isDevelopment feed input.fetch ((s.cursors feed.issuer).getD 0) with
  | .error _ => []
  | .ok page => entryOps feed.issuer input.calls 0 page.entries

def polls (inputs : List (PollInput K)) (s : PollerState K persistence) : PollerState K persistence :=
  inputs.foldl (fun s input => (pollFeed platform isDevelopment feed input s).2) s

def pollsOps : List (PollInput K) → PollerState K persistence → List (StoreOp K)
  | [], _ => []
  | input :: inputs, s =>
    pollOps platform isDevelopment feed input s ++
      pollsOps inputs (pollFeed platform isDevelopment feed input s).2

variable {platform isDevelopment feed}

theorem runOps_append (ops ops' : List (StoreOp K)) (table : RevocationTable K persistence) :
    runOps platform (ops ++ ops') table = runOps platform ops' (runOps platform ops table) :=
  List.foldl_append

theorem snd_applyEntries {issuer : String} {calls : ℕ → EntryCall K} {i : ℕ}
    {entries : List WireEntry} {table : RevocationTable K persistence} :
    (applyEntries platform issuer calls i entries table).2 =
      runOps platform (entryOps issuer calls i entries) table := by
  induction entries generalizing i table with
  | nil => rfl
  | cons e entries ih =>
    simp only [applyEntries, entryOps]
    rw [ih, runOps_append]
    rfl

theorem table_pollFeed {input : PollInput K} {s : PollerState K persistence} :
    (pollFeed platform isDevelopment feed input s).2.table =
      runOps platform (pollOps platform isDevelopment feed input s) s.table := by
  unfold pollFeed pollOps
  dsimp only
  cases fetchOnce platform isDevelopment feed input.fetch ((s.cursors feed.issuer).getD 0) with
  | error e => rfl
  | ok page => exact snd_applyEntries

theorem table_polls {inputs : List (PollInput K)} {s : PollerState K persistence} :
    (polls platform isDevelopment feed inputs s).table =
      runOps platform (pollsOps platform isDevelopment feed inputs s) s.table := by
  induction inputs generalizing s with
  | nil => rfl
  | cons input inputs ih =>
    change (polls platform isDevelopment feed inputs _).table = runOps platform (_ ++ _) s.table
    rw [ih, table_pollFeed, runOps_append]

/-! ## Confinement -/

/-- **A feed revokes tokens of its issuer only.** With token issuance, a control plane does not start with
a feed of its own authority. If it has started, the lookups of every issuer but the feed's are answered as
if the feed had never been polled: over any operations on the store, and over any polls with what happens
between their entries. An environment variable has no NUL. -/
theorem feeds_confined (platform : FeedPlatform K) (persistence : Persistence) {raw : String}
    (hraw : NulFree raw) (jwtAuthority : String) :
    (∀ feeds, parseRevocationFeeds platform.number raw = .ok feeds →
      (∃ feed ∈ feeds, feed.issuer = jwtAuthority) →
      ∃ e, startPoller platform.number true jwtAuthority raw = .error e) ∧
    ∀ tokenIssuanceEnabled feeds,
      startPoller platform.number tokenIssuanceEnabled jwtAuthority raw = .ok feeds →
      ∀ feed ∈ feeds, feed.issuer ≠ jwtAuthority ∧
        ∀ iss jti now, NulFree iss → iss ≠ feed.issuer →
          (∀ (ops : List (StoreOp K)) (table : RevocationTable K persistence),
            (isRevoked iss jti now (runOps platform ops table)).1 =
              (isRevoked iss jti now
                (runOps platform (ops.filter (!StoreOp.isOfFeed feed.issuer ·)) table)).1) ∧
          ∀ isDevelopment (inputs : List (PollInput K)) (s : PollerState K persistence),
            (isRevoked iss jti now (polls platform isDevelopment feed inputs s).table).1 =
              (isRevoked iss jti now (runOps platform
                ((pollsOps platform isDevelopment feed inputs s).filter
                  (!StoreOp.isOfFeed feed.issuer ·)) s.table)).1 := by
  refine ⟨fun feeds hp hc => startPoller_of_clash hp hc, ?_⟩
  intro tokenIssuanceEnabled feeds hs feed hf
  rcases startPoller_eq_ok hs with rfl | ⟨hp, hissue⟩
  · exact absurd hf List.not_mem_nil
  have hi : NulFree feed.issuer := by
    intro hn
    exact hraw (mem_parseRevocationFeeds_chars hp hf hn)
  refine ⟨hissue feed hf, fun iss jti now his ho => ⟨fun ops table => ?_, ?_⟩⟩
  · exact isRevoked_runOps_filter hi his ho ops now
  · intro isDevelopment inputs s
    rw [table_polls]
    exact isRevoked_runOps_filter hi his ho _ now

/-- A peer revokes `t1` and `t2`. The tokens of the control plane with these ids are not revoked. -/
theorem feeds_confined_peer :
    startPoller sampleFeedPlatform.number true "cp.example"
        "peer.example|https://peer.example/auth/revocations|key" = .ok [sampleFeed] ∧
      (isRevoked "cp.example" "t1" 0 (polls sampleFeedPlatform true sampleFeed [samplePollInput "t2"]
        (⟨.empty _, fun _ => none⟩ : PollerState ℚ .memory)).table).1 = false := by
  have hs : startPoller sampleFeedPlatform.number true "cp.example"
      "peer.example|https://peer.example/auth/revocations|key" = .ok [sampleFeed] := rfl
  refine ⟨hs, ?_⟩
  have hc := (feeds_confined sampleFeedPlatform .memory (by decide) "cp.example").2 _ _ hs
    sampleFeed List.mem_cons_self
  rfl

/-- Without token issuance, a control plane starts with a feed of its own authority. It polls none. -/
theorem startPoller_without_issuance :
    parseRevocationFeeds sampleFeedPlatform.number "cp.example|https://cp.example|key" =
        .ok [⟨"cp.example", "https://cp.example", "key", 300⟩] ∧
      startPoller sampleFeedPlatform.number false "cp.example" "cp.example|https://cp.example|key" =
        .ok [] := ⟨rfl, rfl⟩

end Polls

end AcdpControlPlane
