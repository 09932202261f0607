import AcdpControlPlane.Quota.Config

/-!
# Quota enforcement

`InMemoryQuotaStore` of `src/quota/quota-store.ts` counts the calls of a tenant and an action in
buckets of one window, and `QuotaService.enforce` of `src/quota/quota.service.ts` rejects a call above
the limit. The calls are taken in the order in which they reach the store, at times in milliseconds.
-/

namespace AcdpControlPlane.Quota

open List

/-! ## The service -/

structure Bucket where
  count : ℕ
  expiresAt : ℕ
deriving DecidableEq, Repr

abbrev Buckets := String → Option Bucket

/-- `InMemoryQuotaStore.increment`: the count, the seconds the bucket has left, and the store. -/
def increment (buckets : Buckets) (key : String) (windowSeconds now : ℕ) : (ℕ × ℕ) × Buckets :=
  match (buckets key).filter (now < ·.expiresAt) with
  | none => ((1, windowSeconds), Function.update buckets key (some ⟨1, now + windowSeconds * 1000⟩))
  | some existing => ((existing.count + 1, max 1 ((existing.expiresAt - now + 999) / 1000)),
      Function.update buckets key (some ⟨existing.count + 1, existing.expiresAt⟩))

/-- The details of the 429. -/
structure QuotaExceeded where
  tenantId : String
  action : Action
  limit : Int
  windowSeconds : ℕ
  retryAfterSeconds : ℕ
deriving DecidableEq, Repr

/-- The seconds of a window; a valid configuration has no inherited one. -/
def Window.toSeconds : Window → ℕ
  | .seconds n => n
  | .inherited _ => 0

structure Call where
  tenantId : String
  action : Action
  now : ℕ
deriving DecidableEq, Repr

def Call.pair (call : Call) : String × Action := (call.tenantId, call.action)

def Call.key (call : Call) : String := "acdp:quota:" ++ call.tenantId ++ ":" ++ call.action.text

/-- The check of the count; without a signal of the store the call is admitted. -/
def check (call : Call) (limit : QuotaLimit) (count ttlSeconds : ℕ) : Except QuotaExceeded Unit :=
  if count = 0 then .ok ()
  else if limit.count < count then
    .error ⟨call.tenantId, call.action, limit.count, limit.windowSeconds.toSeconds, max 1 ttlSeconds⟩
  else .ok ()

def enforce (config : ParsedQuotaConfig) (buckets : Buckets) (call : Call) :
    Except QuotaExceeded Unit × Buckets :=
  match resolveLimit config call.tenantId call.action with
  | none => (.ok (), buckets)
  | some limit =>
    let ((count, ttlSeconds), buckets) :=
      increment buckets call.key limit.windowSeconds.toSeconds call.now
    (check call limit count ttlSeconds, buckets)

/-- A call with its outcome, and the bucket of its tenant and action after it. -/
structure Served where
  call : Call
  outcome : Except QuotaExceeded Unit
  bucket : Bucket

def run (config : ParsedQuotaConfig) : Buckets → List Call → List Served
  | _, [] => []
  | buckets, call :: calls =>
    let result := enforce config buckets call
    ⟨call, result.1, (result.2 call.key).getD ⟨0, 0⟩⟩ :: run config result.2 calls

variable {config : ParsedQuotaConfig} {buckets buckets' : Buckets} {calls : List Call} {n w : ℕ}

/-! ## Isolation -/

theorem pair_eq_of_key_eq {x y : Call} (h : x.key = y.key) : x.pair = y.pair := by
  have hl : x.tenantId.toList ++ ':' :: x.action.text.toList =
      y.tenantId.toList ++ ':' :: y.action.text.toList := by
    simpa [Call.key] using congrArg String.toList h
  have hc : ∀ action : Action, ':' ∉ action.text.toList := by
    intro action
    cases action <;> simp [Action.text]
  have ha := Cut.atLast_eq_some_iff.mpr ⟨hl, hc y.action⟩
  rw [Cut.atLast_eq_some_iff.mpr ⟨rfl, hc x.action⟩, Option.some_inj, Prod.mk.injEq] at ha
  have ht := String.toList_injective ha.2
  refine Prod.ext (String.toList_injective ha.1) ?_
  rcases x with ⟨_, _ | _, _⟩ <;> rcases y with ⟨_, _ | _, _⟩ <;> simp_all [Action.text, Call.pair]

/-- What a call does depends on its own bucket, and it leaves the others alone. -/
theorem enforce_local (config : ParsedQuotaConfig) (call : Call) (h : buckets call.key = buckets' call.key) :
    (enforce config buckets call).1 = (enforce config buckets' call).1 ∧
      (enforce config buckets call).2 call.key = (enforce config buckets' call).2 call.key ∧
      ∀ k ≠ call.key, (enforce config buckets call).2 k = buckets k := by
  unfold enforce increment
  rw [h]
  split
  · exact ⟨rfl, h, fun _ _ => rfl⟩
  · dsimp only
    split <;> simp +contextual

/-- The calls of other tenants and actions do not matter. -/
theorem filter_run {p : String × Action} (h : ∀ call : Call, call.pair = p →
      buckets call.key = buckets' call.key) : (run config buckets calls).filter (·.call.pair = p) =
      run config buckets' (calls.filter (·.pair = p)) := by
  induction calls generalizing buckets buckets' with
  | nil => rfl
  | cons call calls ih =>
    by_cases hc : call.pair = p
    · obtain ⟨ho, hb, -⟩ := enforce_local config call (h call hc)
      have hk : ∀ other : Call, other.pair = p → other.key = call.key := by
        rintro ⟨t, a, _⟩ hp
        cases hp.trans hc.symm
        rfl
      simp [run, hc, ih fun other hp => hk other hp ▸ hb, ho, hb]
    · simp only [run, filter_cons, hc, decide_false, Bool.false_eq_true, if_false]
      exact ih fun other hp => ((enforce_local config call rfl).2.2 _ fun hk =>
        hc ((pair_eq_of_key_eq hk).symm.trans hp)).trans (h other hp)

/-! ## Buckets -/

/-- A later count in the same bucket, or a later bucket. -/
def Bucket.Before (w : ℕ) (x y : Bucket) : Prop :=
  x.expiresAt = y.expiresAt ∧ x.count < y.count ∨ x.expiresAt + w * 1000 ≤ y.expiresAt

theorem Bucket.Before.trans {x y z : Bucket} (hx : x.Before w y) (hy : y.Before w z) :
    x.Before w z := by
  unfold Before at *
  omega

/-- What holds of a served call under a limit of `n` calls in `w` seconds. -/
structure Served.Sound (n w : ℕ) (s : Served) : Prop where
  lt_expiresAt : s.call.now < s.bucket.expiresAt
  expiresAt_le : s.bucket.expiresAt ≤ s.call.now + w * 1000
  count_pos : 0 < s.bucket.count
  count_le : s.outcome = .ok () → s.bucket.count ≤ n
  retry : ∀ details, s.outcome = .error details →
    s.bucket.expiresAt ≤ s.call.now + details.retryAfterSeconds * 1000

theorem check_spec (call : Call) (limit : QuotaLimit) {count ttl e : ℕ} (hc : 0 < count)
    (he : e ≤ call.now + ttl * 1000) :
    (check call limit count ttl = .ok () → (count : Int) ≤ limit.count) ∧
      ∀ details, check call limit count ttl = .error details →
        e ≤ call.now + details.retryAfterSeconds * 1000 := by
  unfold check
  rw [if_neg hc.ne']
  split_ifs with hn
  · refine ⟨nofun, ?_⟩
    rintro _ ⟨⟩
    exact he.trans (Nat.add_le_add_left (Nat.mul_le_mul_right _ (le_max_right _ _)) _)
  · exact ⟨fun _ => not_lt.mp hn, nofun⟩

/-- A call opens a bucket, or is counted in the one in force. -/
theorem enforce_spec {call : Call} (buckets : Buckets) (hw : 0 < w)
    (hl : resolveLimit config call.tenantId call.action = some ⟨n, .seconds w⟩)
    (ho : ∀ x ∈ buckets call.key, x.expiresAt ≤ call.now + w * 1000) : ∃ b : Bucket,
    (enforce config buckets call).2 = Function.update buckets call.key (some b) ∧
      Served.Sound n w ⟨call, (enforce config buckets call).1, b⟩ ∧
      (∀ x ∈ buckets call.key, x.Before w b) ∧
      (b = ⟨1, call.now + w * 1000⟩ ∨ ∃ x ∈ buckets call.key, x.expiresAt = b.expiresAt) := by
  unfold enforce increment
  rw [hl]
  dsimp only [Window.toSeconds]
  split
  · next hb =>
    obtain ⟨hn, hr⟩ := check_spec call ⟨n, .seconds w⟩ Nat.one_pos (le_refl (call.now + w * 1000))
    refine ⟨_, rfl, ⟨by dsimp only; omega, le_rfl, Nat.one_pos, fun h => Int.ofNat_le.mp (hn h), hr⟩,
      fun x hx => .inr (Nat.add_le_add_right ?_ _), .inl rfl⟩
    rw [hx] at hb
    simpa using hb
  · next x hx =>
    obtain ⟨hx, he⟩ := Option.filter_eq_some_iff.mp hx
    have ht : x.expiresAt ≤ call.now + max 1 ((x.expiresAt - call.now + 999) / 1000) * 1000 := by omega
    obtain ⟨hn, hr⟩ := check_spec call ⟨n, .seconds w⟩ x.count.succ_pos ht
    refine ⟨_, rfl, ⟨by simpa using he, ho x hx, Nat.succ_pos _, fun h => Int.ofNat_le.mp (hn h), hr⟩,
      fun y hy => .inl ?_, .inr ⟨x, hx, rfl⟩⟩
    cases hx.symm.trans hy
    exact ⟨rfl, Nat.lt_succ_self _⟩

/-- The calls of one counter: their buckets, and the call that opened each. -/
theorem run_spec {k : String} (buckets : Buckets) (hw : 0 < w) (hp : ∀ call ∈ calls,
      call.key = k ∧ resolveLimit config call.tenantId call.action = some ⟨n, .seconds w⟩)
    (hs : calls.Pairwise (·.now ≤ ·.now))
    (ho : ∀ x ∈ buckets k, ∀ call ∈ calls, x.expiresAt ≤ call.now + w * 1000) :
    (run config buckets calls).Pairwise (·.bucket.Before w ·.bucket) ∧
      ∀ s ∈ run config buckets calls, s.Sound n w ∧ (∀ x ∈ buckets k, x.Before w s.bucket) ∧
        ((∃ x ∈ buckets k, x.expiresAt = s.bucket.expiresAt) ∨
          ∃ o ∈ run config buckets calls, o.bucket = ⟨1, o.call.now + w * 1000⟩ ∧
            o.bucket.expiresAt = s.bucket.expiresAt) := by
  induction calls generalizing buckets with
  | nil => exact ⟨.nil, nofun⟩
  | cons call calls ih =>
    obtain ⟨⟨rfl, hl⟩, hp⟩ := forall_mem_cons.mp hp
    obtain ⟨hle, hs⟩ := pairwise_cons.mp hs
    obtain ⟨b, hb, hsound, hold, hopen⟩ :=
      enforce_spec buckets hw hl fun x hx => ho x hx call (.head _)
    obtain ⟨hpair, hall⟩ := ih (Function.update buckets call.key (some b)) hp hs (by
      simp only [Function.update_self, Option.mem_some, forall_eq']
      intro later hm
      exact hsound.expiresAt_le.trans (Nat.add_le_add_right (hle later hm) _))
    simp only [Function.update_self, Option.mem_some, forall_eq', exists_eq_left'] at hall
    simp only [run, hb, Function.update_self, Option.getD_some]
    refine ⟨.cons (fun s hm => (hall s hm).2.1) hpair, forall_mem_cons.mpr
      ⟨⟨hsound, hold, hopen.symm.imp_right fun ho => ⟨_, .head _, ho, rfl⟩⟩, fun s hm => ?_⟩⟩
    obtain ⟨hss, hbef, he⟩ := hall s hm
    refine ⟨hss, fun x hx => (hold x hx).trans hbef, ?_⟩
    rcases he with he | ⟨o, hm, hop⟩
    · rw [← he]
      exact hopen.symm.imp_right fun ho => ⟨_, .head _, ho, rfl⟩
    · exact .inr ⟨o, .tail _ hm, hop⟩

/-- Calls admitted in buckets that end within one window. -/
theorem countP_le {served : List Served} {p : Served → Bool}
    (hp : served.Pairwise (·.bucket.Before w ·.bucket)) (hs : ∀ s ∈ served, s.Sound n w) (t : ℕ)
    (ht : ∀ s ∈ served, p s → s.outcome = .ok () ∧ t < s.bucket.expiresAt ∧
      s.bucket.expiresAt ≤ t + w * 1000) : served.countP p ≤ n := by
  have hsub : ((served.filter p).map (·.bucket.count)).Subperm (range' 1 n) := by
    refine Nodup.subperm (pairwise_map.mpr ?_) fun c hc => ?_
    · refine (hp.filter _).imp_of_mem fun {r s} hr hs hb => ?_
      have hr := ht r (mem_of_mem_filter hr) (mem_filter.mp hr).2
      have hs := ht s (mem_of_mem_filter hs) (mem_filter.mp hs).2
      rcases hb with hb | hb <;> omega
    · obtain ⟨s, hm, rfl⟩ := mem_map.mp hc
      obtain ⟨hm, hps⟩ := mem_filter.mp hm
      have hle := (hs s hm).count_le (ht s hm hps).1
      have hpos := (hs s hm).count_pos
      rw [mem_range'_1]
      omega
  simpa [countP_eq_length_filter] using hsub.length_le

/-- **Windows bound admissions.** Of the calls of a tenant and an action with a limit of `n` calls in
`w` seconds, which are served as if there were no others, at most `n` are admitted in a bucket and
`2 * n` in a window; a call retried in time is counted in a bucket opened since. -/
theorem enforce_bounds {p : String × Action} {served : List Served}
    (hl : resolveLimit config p.1 p.2 = some ⟨n, .seconds w⟩) (hw : 0 < w)
    (hclock : calls.Pairwise (·.now ≤ ·.now))
    (hserved : served = (run config (fun _ => none) calls).filter (·.call.pair = p)) :
    served = run config (fun _ => none) (calls.filter (·.pair = p)) ∧
      (∀ e, served.countP (fun s => s.outcome = .ok () ∧ s.bucket.expiresAt = e) ≤ n) ∧
      (∀ t, served.countP (fun s => s.outcome = .ok () ∧ t ≤ s.call.now ∧
        s.call.now ≤ t + w * 1000) ≤ 2 * n) ∧
      served.Pairwise fun s retry => ∀ details, s.outcome = .error details →
        s.call.now + details.retryAfterSeconds * 1000 ≤ retry.call.now →
        ∃ o ∈ served, o.bucket = ⟨1, retry.bucket.expiresAt⟩ ∧ s.bucket.expiresAt ≤ o.call.now ∧
          o.call.now ≤ retry.call.now := by
  rw [filter_run fun _ _ => rfl] at hserved
  have hpair : ∀ call ∈ calls.filter (·.pair = p), call.key = Call.key ⟨p.1, p.2, 0⟩ ∧
      resolveLimit config call.tenantId call.action = some ⟨n, .seconds w⟩ := fun call hm => by
    obtain rfl : call.pair = p := by simpa using (mem_filter.mp hm).2
    exact ⟨rfl, hl⟩
  obtain ⟨hp, hs⟩ := run_spec (fun _ => none) hw hpair (hclock.filter _) nofun
  rw [← hserved] at hp hs
  have hsound := fun s hm => (hs s hm).1
  refine ⟨hserved, fun e => ?_, fun t => ?_, hp.imp_of_mem fun {s retry} hm hm' hb d hd hr => ?_⟩
  · refine countP_le hp hsound (e - 1) fun s hm he => ?_
    have hlt := (hsound s hm).lt_expiresAt
    simp only [decide_eq_true_eq] at he
    exact ⟨he.1, by omega⟩
  · -- the buckets that end in the window, and the later ones
    rw [countP_eq_countP_filter_add served _ (·.bucket.expiresAt ≤ t + w * 1000), Nat.two_mul]
    refine Nat.add_le_add
      (countP_le (hp.filter _) (fun s hm => hsound s (mem_of_mem_filter hm)) t fun s hm he => ?_)
      (countP_le (hp.filter _) (fun s hm => hsound s (mem_of_mem_filter hm)) (t + w * 1000)
        fun s hm he => ?_)
    all_goals
      obtain ⟨hm, hq⟩ := mem_filter.mp hm
      have hlt := (hsound s hm).lt_expiresAt
      have hle := (hsound s hm).expiresAt_le
      simp only [decide_eq_true_eq, Bool.not_eq_true', decide_eq_false_iff_not] at he hq
      exact ⟨he.1, by omega⟩
  · have hx := (hsound s hm).retry d hd
    have hlt := (hsound retry hm').lt_expiresAt
    have hle := (hsound retry hm').expiresAt_le
    obtain ⟨_, ho, -⟩ | ⟨o, ho, hop, he⟩ := (hs retry hm').2.2
    · cases ho
    · rw [hop] at he
      refine ⟨o, ho, he ▸ hop, ?_, ?_⟩ <;> rcases hb with hb | hb <;> dsimp only at he <;> omega

theorem enforce_bounds_sample :
    resolveLimit (byTenant sampleBlocks) "a" .publish = some ⟨(5 : ℕ), .seconds 60⟩ ∧
      ((run (byTenant sampleBlocks) (fun _ => none) (replicate 7 ⟨"a", .publish, 0⟩)).filter
        (·.call.pair = ("a", .publish))).countP
          (fun s => s.outcome = .ok () ∧ s.bucket.expiresAt = 60000) ≤ 5 :=
  ⟨rfl, (@enforce_bounds _ _ 5 60 ("a", .publish) _ rfl (by decide) (by decide) rfl).2.1 60000⟩

end AcdpControlPlane.Quota
