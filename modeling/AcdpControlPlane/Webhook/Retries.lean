import AcdpControlPlane.Webhook.Outbox

/-!
# What a retry waits for

Three things may stand between a pending delivery and its next request: the subscription is not
active, the SSRF gate has refused its URL, or the subscriber has asked for a delay by `Retry-After`.
`fireEvent` looks at the first, and the loop of `deliverWithTracking` at the other two. A sweep looks at
the row alone, so what it does depends on how much of the obstacle is in the row.
-/

namespace AcdpControlPlane

open WebhookDeliveryRepository WebhookService List Option

variable {env : WebhookEnv} {webhooks : WebhookTable} {s s' : OutboxState} {id : String}
  {history : List (OutboxEvent × OutboxState)} {event : OutboxEvent} {row : WebhookDelivery}

/-! ## Subscriptions that are not active -/

/-- The subscription that an event starts a delivery for, as it was read. -/
def OutboxEvent.starts (s : OutboxState) : OutboxEvent → Option Webhook
  | .create firing _ => s.firings[firing]?.bind (·.remaining.head?)
  | .proceed i .lookup _ =>
    s.tasks[i]?.bind fun task =>
      match task.phase with
      | .listed webhookId _ => WebhookRepository.findById s.webhooks webhookId task.tenantId
      | _ => none
  | _ => none

/-- What `fireEvent` has still to insert was read as active. -/
def FiresActive (s : OutboxState) : Prop :=
  ∀ firing ∈ s.firings, ∀ webhook ∈ firing.remaining, webhook.active = true

theorem firesActive_step (h : FiresActive s) (hs : s.step env event = some s') :
    FiresActive s' := by
  cases event with
  | fireEvent payload tenantId =>
    cases hs
    intro firing hf webhook hw
    rcases mem_append.mp hf with hf | hf
    · exact h firing hf webhook hw
    · cases mem_singleton.mp hf
      have hl := (mem_filter.mp hw).1
      exact (of_decide_eq_true (mem_filter.mp hl).2).1
  | create i deliveryId =>
    simp only [OutboxState.step] at hs
    split at hs
    · next payload tenantId webhook remaining hg =>
      split at hs
      · cases hs
      · cases hs
        intro firing hf w hw
        rcases mem_or_eq_of_mem_set hf with hf | rfl
        · exact h firing hf w hw
        · exact h _ (mem_of_getElem? hg) w (mem_cons_of_mem _ hw)
    · cases hs
  | proceed i input now =>
    simp only [OutboxState.step, bind_eq_bind, bind_eq_some_iff] at hs
    obtain ⟨task, -, move, -, hs'⟩ := hs
    cases hs'
    exact h
  | _ =>
    cases hs
    exact h

theorem firesActive_run (hr : OutboxRun env webhooks history s) : FiresActive s :=
  hr.state_invariant (fun _ hf => absurd hf not_mem_nil) fun _ _ _ => firesActive_step

/-! ## A refused URL -/

theorem view_apply_owner {i : ℕ} {task owner : DeliveryTask} {posts : ℕ}
    (hta : s.tasks[i]? = some task) (hvi : s.view task.deliveryId = ⟨some row, [owner], posts⟩)
    (move : TaskMove) (now : Int) :
    task = owner ∧ (s.apply i task move now).view task.deliveryId =
      ⟨some (if row.tenantId = task.tenantId then move.rowAfter now row else row),
        (move.next.map fun phase => { task with phase }).toList, posts + move.post.toList.length⟩ := by
  obtain ⟨before, after, hv, hv'⟩ := view_apply_of_eq hta rfl move now
  rw [hvi] at hv
  obtain ⟨hr, ht, hp⟩ := DeliveryView.mk.inj hv
  obtain ⟨rfl, ho⟩ | ⟨_, _, hn⟩ := append_eq_cons_iff.mp ht.symm
  · cases ho
    refine ⟨rfl, ?_⟩
    rw [hv', ← hr, ← hp, append_nil]
    rfl
  · simp at hn

theorem view_eq_of_task {i : ℕ} {task : DeliveryTask} (hr : OutboxRun env webhooks history s)
    (hf : ∀ entry ∈ history, ListsFree task.deliveryId entry) (ht : s.tasks[i]? = some task) :
    ∃ row posts, s.view task.deliveryId = ⟨some row, [task], posts⟩ ∧
      task.tenantId = row.tenantId := by
  have hm : task ∈ (s.view task.deliveryId).tasks :=
    mem_filter.mpr ⟨mem_of_getElem? ht, decide_eq_true rfl⟩
  have hs := outbox_sound hr hf
  generalize s.view task.deliveryId = view at hm hs
  cases hs with
  | absent => cases hm
  | idle => cases hm
  | owned _ tenant =>
    cases mem_singleton.mp hm
    exact ⟨_, _, rfl, tenant⟩

/-- No sweep lists the delivery in any run that goes on from here, and no request is sent for it. -/
def Permanent (env : WebhookEnv) (webhooks : WebhookTable)
    (history : List (OutboxEvent × OutboxState)) (s : OutboxState) (id : String) : Prop :=
  ∀ later s', OutboxRun env webhooks (later ++ history) s' → (∀ entry ∈ later, ListsFree id entry) →
    (∀ entry ∈ later, ∀ row ∈ entry.1.lists entry.2, row.id ≠ id) ∧ s'.postCount id = s.postCount id

def OutboxEvent.time : OutboxEvent → Option Int
  | .retryAllPending now => some now
  | .retryPending _ now => some now
  | .proceed _ _ now => some now
  | _ => none

theorem OutboxEvent.of_mem_lists (h : row ∈ event.lists s) :
    ∃ now, event.time = some now ∧ s.deliveries.find? row.id = some row ∧ row.status = .pending ∧
      dueClause now row = true := by
  cases event with
  | retryAllPending now =>
    obtain ⟨hr, hk⟩ := mem_filter.mp h
    obtain ⟨hs, hd⟩ := of_decide_eq_true hk
    exact ⟨now, rfl, KeyedTable.find?_eq_some_iff.mpr ⟨hr, rfl⟩, hs, hd⟩
  | retryPending tenantId now =>
    obtain ⟨hr, hk⟩ := mem_filter.mp h
    obtain ⟨hs, -, hd⟩ := of_decide_eq_true hk
    exact ⟨now, rfl, KeyedTable.find?_eq_some_iff.mpr ⟨hr, rfl⟩, hs, hd⟩
  | _ => cases h

theorem permanent_of_finished (hru : OutboxRun env webhooks history s)
    (hf : ∀ entry ∈ history, ListsFree id entry) (hr : s.deliveries.find? id = some row)
    (hd : row.status ≠ .pending) : Permanent env webhooks history s id := by
  intro later s' hl hf'
  have ha := forall_mem_append.mpr ⟨hf', hf⟩
  refine ⟨?_, congrArg DeliveryView.posts (view_of_finished hru hl ha hr hd)⟩
  rintro ⟨event, s₁⟩ hen listed hli rfl
  -- at the time of the sweep the row was finished as well
  obtain ⟨late, early, rfl⟩ := append_of_mem hen
  rw [append_assoc, cons_append] at hl
  have hs := view_of_finished hru hl.at_entry.1
    (fun entry h => ha entry (by simp_all)) hr hd
  obtain ⟨-, -, hfn, hp, -⟩ := OutboxEvent.of_mem_lists hli
  have heq : some listed = some row := hfn.symm.trans ((congrArg DeliveryView.row hs).trans hr)
  cases heq
  exact hd hp

def sampleGateRefusal : OutboxEvent := .proceed 0 (.guarded (some "private address")) 0

def sampleRetry : List OutboxEvent := [.retryAllPending 0, .proceed 0 .lookup 0]

/-! ## A delay that the subscriber asks for -/

/-- The sleep after a failed attempt, in milliseconds. -/
def backoffMs (attempt : ℕ) : ℕ := 1000 * 2 ^ (attempt - 1)

/-- A call that backs off sleeps as long as it asked for, after its outcome was written. -/
def sleeps (entry : OutboxEvent × OutboxState) : Bool :=
  match entry.1 with
  | .proceed i .woken now =>
    entry.2.tasks[i]?.all fun task =>
      match task.phase, (entry.2.deliveries.find? task.deliveryId).bind (·.lastAttemptAt) with
      | .backingOff _ attempt, some t => t + 1000 * backoffMs attempt ≤ 1000 * now
      | _, _ => true
  | _ => true

theorem le_of_sleeps {i attempt : ℕ} {now t : Int} {task : DeliveryTask}
    {target : WebhookTarget} (ht : s.tasks[i]? = some task)
    (hp : task.phase = .backingOff target attempt)
    (hr : s.deliveries.find? task.deliveryId = some row) (hl : row.lastAttemptAt = some t)
    (h : sleeps (.proceed i .woken now, s) = true) : t + 1000 * backoffMs attempt ≤ 1000 * now := by
  simpa [sleeps, ht, hp, hr, hl] using h

/-- The reading of the clock after events, the latest first. -/
def clock (start : Int) : List (OutboxEvent × OutboxState) → Int
  | [] => start
  | (event, _) :: rest => event.time.getD (clock start rest)

/-- The clock does not go back, and nobody wakes up early. -/
def timely (start : Int) : List (OutboxEvent × OutboxState) → Bool
  | [] => true
  | entry :: rest => timely start rest && clock start rest ≤ clock start (entry :: rest) && sleeps entry

/-- Nothing is sent for a delivery before an instant: its call is about to write a failure that defers
the next attempt or leads to a long sleep, or it has done so, or the instant has passed. -/
inductive Withheld (bound now : Int) : DeliveryView → Prop where
  | recording {row : WebhookDelivery} {task : DeliveryTask} {posts : ℕ} {target : WebhookTarget}
      {update : DeliveryUpdate} {backoff : Option ℕ} (tenant : task.tenantId = row.tenantId)
      (phase : task.phase = .recording target update backoff)
      (waits : (backoff = none ∧ ∃ attempt m status u,
          update = .markFailed attempt m status (some u) ∧ 1000 * bound ≤ u) ∨
        ∃ attempt, backoff = some attempt ∧ bound ≤ now + backoffMs attempt) :
      Withheld bound now ⟨some row, [task], posts⟩
  | deferred {row : WebhookDelivery} {posts : ℕ} {u : Int} (next : row.nextAttemptAt = some u)
      (late : 1000 * bound ≤ u) : Withheld bound now ⟨some row, [], posts⟩
  | sleeping {row : WebhookDelivery} {task : DeliveryTask} {posts : ℕ} {target : WebhookTarget}
      {attempt : ℕ} {t : Int} (phase : task.phase = .backingOff target attempt)
      (last : row.lastAttemptAt = some (1000 * t)) (late : bound ≤ t + backoffMs attempt) :
      Withheld bound now ⟨some row, [task], posts⟩
  | passed {view : DeliveryView} (late : bound ≤ now) : Withheld bound now view

theorem Withheld.mono {bound now now' : Int} {view : DeliveryView} (h : Withheld bound now view)
    (hle : now ≤ now') : Withheld bound now' view := by
  cases h with
  | recording tenant phase waits =>
    refine .recording tenant phase (waits.imp_right ?_)
    rintro ⟨attempt, hb, hl⟩
    exact ⟨attempt, hb, hl.trans (by omega)⟩
  | deferred next late => exact .deferred next late
  | sleeping phase last late => exact .sleeping phase last late
  | passed late => exact .passed (late.trans hle)

theorem touched_of_step (h : s.step env event = some s') (id : String) :
    (s'.posts = s.posts ∧ (s'.view id = s.view id ∨ s.deliveries.find? id = none ∨
      ∃ row ∈ event.lists s, row.id = id)) ∨
    ∃ i input now task move, event = .proceed i input now ∧ s.tasks[i]? = some task ∧
      task.phase.advance env s.webhooks task.tenantId input = some move ∧
      s' = s.apply i task move now := by
  have hs : ∀ scope now, (s.sweep scope now).view id = s.view id ∨
      s.deliveries.find? id = none ∨ ∃ row ∈ sweepRows s.deliveries scope now, row.id = id := by
    intro scope now
    rcases filter_sweepRows s.deliveries scope now id with hno | ⟨row, hf, hl, -⟩
    · rw [view_sweep, hno]
      simp
    · exact Or.inr (Or.inr ⟨row, hl, (KeyedTable.find?_eq_some_iff.mp hf).2⟩)
  cases event with
  | create firing deliveryId =>
    simp only [OutboxState.step] at h
    split at h
    · split at h
      · cases h
      · next hn =>
        cases h
        refine Or.inl ⟨rfl, ?_⟩
        by_cases hi : deliveryId = id
        · exact Or.inr (Or.inl (KeyedTable.find?_eq_none_iff.mpr (hi ▸ hn)))
        · exact Or.inl (view_insert_of_ne hn rfl hi)
    · cases h
  | retryAllPending now =>
    cases h
    exact Or.inl ⟨rfl, hs none now⟩
  | retryPending tenantId now =>
    cases h
    exact Or.inl ⟨rfl, hs (some tenantId) now⟩
  | proceed i input now =>
    simp only [OutboxState.step, bind_eq_bind, bind_eq_some_iff] at h
    obtain ⟨task, ht, move, hm, hs'⟩ := h
    exact Or.inr ⟨i, input, now, task, move, rfl, ht, hm, (some.inj hs').symm⟩
  | _ =>
    cases h
    exact Or.inl ⟨rfl, Or.inl rfl⟩

theorem posts_apply (s : OutboxState) (i : ℕ) (task : DeliveryTask) (move : TaskMove) (now : Int) :
    ∃ sent, (s.apply i task move now).posts = sent ++ s.posts ∧
      ∀ post ∈ sent, post.deliveryId = task.deliveryId ∧ post.sentAt = now ∧ move.post ≠ none := by
  refine ⟨_, rfl, ?_⟩
  intro post hp
  cases hm : move.post with
  | none => simp [hm] at hp
  | some attempt =>
    rw [hm] at hp
    cases mem_singleton.mp hp
    exact ⟨rfl, rfl, some_ne_none _⟩

theorem Withheld.step {bound now : Int} (hh : Withheld bound now (s.view id))
    (h : s.step env event = some s') (hfr : ListsFree id (event, s)) (hsl : sleeps (event, s) = true)
    (hl : now ≤ event.time.getD now) :
    Withheld bound (event.time.getD now) (s'.view id) ∧ ∃ sent, s'.posts = sent ++ s.posts ∧
      ∀ post ∈ sent, post.deliveryId = id → bound ≤ post.sentAt := by
  rcases touched_of_step h id with ⟨hpo, hto⟩ | ⟨i, input, t, task, move, rfl, hta, hm, rfl⟩
  · refine ⟨?_, [], hpo, forall_mem_nil _⟩
    rcases hto with hsa | hno | ⟨row, hli, hi⟩
    · rw [hsa]
      exact hh.mono hl
    · -- a delivery that is held has a row
      generalize hv : s.view id = view at hh
      cases hh with
      | passed late => exact .passed (late.trans hl)
      | _ => cases hno.symm.trans (congrArg DeliveryView.row hv)
    · have hidl : (s.view id).tasks = [] := by
        apply filter_eq_nil_iff.mpr
        intro task hta
        simpa using hfr row hli hi task hta
      obtain ⟨t, ht, hf, -, hd⟩ := OutboxEvent.of_mem_lists hli
      rw [ht] at hl ⊢
      rw [hi] at hf
      generalize hv : s.view id = view at hh hidl
      cases hh with
      | recording => cases hidl
      | sleeping => cases hidl
      | @deferred row' _ u next late =>
        -- the sweep lists the row only when the attempt is due
        have hr : some row = some row' := hf.symm.trans (congrArg DeliveryView.row hv)
        cases hr
        rw [dueClause, next] at hd
        have hd := of_decide_eq_true hd
        exact .passed (by simp only [getD_some]; omega)
      | passed late => exact .passed (late.trans hl)
  · obtain ⟨sent, hs, hn⟩ := posts_apply s i task move t
    by_cases hi : task.deliveryId = id
    · subst hi
      have hme : task ∈ (s.view task.deliveryId).tasks :=
        mem_filter.mpr ⟨mem_of_getElem? hta, decide_eq_true rfl⟩
      generalize hv : s.view task.deliveryId = view at hh hme
      cases hh with
      | deferred => cases hme
      | passed late =>
        exact ⟨.passed (late.trans hl), sent, hs, fun post hp _ => (hn post hp).2.1 ▸ late.trans hl⟩
      | recording tenant phase waits =>
        obtain ⟨rfl, ha⟩ := view_apply_owner hta hv move t
        rw [phase] at hm
        cases input with
        | written =>
          cases hm
          rw [if_pos tenant.symm] at ha
          rw [ha]
          refine ⟨?_, sent, hs, fun post hp _ => absurd rfl (hn post hp).2.2⟩
          rcases waits with ⟨rfl, attempt, m, status, u, rfl, hu⟩ | ⟨attempt, rfl, hla⟩
          · exact .deferred rfl hu
          · refine .sleeping rfl ?_ (hla.trans (Int.add_le_add_right hl _))
            cases ‹DeliveryUpdate› <;> rfl
        | _ => cases hm
      | sleeping phase last late =>
        obtain ⟨rfl, -⟩ := view_apply_owner hta hv move t
        have hw : input = .woken := by
          rw [phase] at hm
          cases input with
          | woken => rfl
          | _ => cases hm
        subst hw
        -- the call has slept since its outcome was written
        have hsle := le_of_sleeps hta phase (congrArg DeliveryView.row hv) last hsl
        have hb : bound ≤ t := by omega
        exact ⟨.passed hb, sent, hs, fun post hp _ => (hn post hp).2.1 ▸ hb⟩
    · rw [view_apply_of_ne hta hi]
      exact ⟨hh.mono hl, sent, hs, fun post hp heq => absurd ((hn post hp).1.symm.trans heq) hi⟩

theorem Withheld.run {bound now : Int} {later : List (OutboxEvent × OutboxState)}
    (hru : OutboxRun env webhooks history s) (hhe : Withheld bound now (s.view id))
    (hla : OutboxRun env webhooks (later ++ history) s')
    (hfr : ∀ entry ∈ later, ListsFree id entry) (ht : timely now later = true) :
    Withheld bound (clock now later) (s'.view id) ∧ ∃ sent, s'.posts = sent ++ s.posts ∧
      ∀ post ∈ sent, post.deliveryId = id → bound ≤ post.sentAt := by
  induction later generalizing s' with
  | nil =>
    cases hla.eq_of_run hru
    exact ⟨hhe, [], rfl, forall_mem_nil _⟩
  | cons entry later ih =>
    cases hla with
    | step run next =>
      simp only [timely, Bool.and_eq_true, decide_eq_true_eq] at ht
      obtain ⟨⟨ht, hle⟩, hsl⟩ := ht
      obtain ⟨hf, hr⟩ := forall_mem_cons.mp hfr
      obtain ⟨hh, sent, hs, hl⟩ := ih run hr ht
      obtain ⟨hh', sent', hs', hl'⟩ := hh.step next hf hsl hle
      refine ⟨hh', sent' ++ sent, by rw [hs', hs, append_assoc], ?_⟩
      exact forall_mem_append.mpr ⟨hl', hl⟩

theorem advance_tooManyRequests {target : WebhookTarget} {attempt d : ℕ} {retryAfter : Option String}
    {nowMs now : Int} (tenantId : String) (hl : attempt < 3)
    (hd : parseRetryAfterMs env.otherDates retryAfter nowMs = some d) :
    ∃ update backoff, (TaskPhase.awaiting target attempt).advance env webhooks tenantId
        (.answered (.response 429 retryAfter) nowMs now) =
        some ⟨some (.recording target update backoff), none, none⟩ ∧
      ((∃ u m, deferral env retryAfter nowMs now = some (.ok u) ∧ backoff = none ∧
        update = .markFailed attempt m (some 429) (some u)) ∨
      (∃ e, deferral env retryAfter nowMs now = some (.error e)) ∧ backoff = some attempt) := by
  have hl' : attempt < maxAttempts := hl
  obtain ⟨result, hr⟩ : ∃ result, deferral env retryAfter nowMs now = some result := by
    rw [deferral, hd]
    exact ⟨_, rfl⟩
  cases result with
  | ok u =>
    have hs : ∃ m, settleAttempt env attempt (.response 429 retryAfter) nowMs now =
        (.markFailed attempt m (some 429) (some u), true) :=
      ⟨_, by simp only [settleAttempt, hl', and_self, if_true, hr]; rfl⟩
    obtain ⟨m, hs⟩ := hs
    refine ⟨_, none, ?_, Or.inl ⟨u, m, hr, rfl, rfl⟩⟩
    simp only [TaskPhase.advance, hs, if_true]
  | error e =>
    have hs : settleAttempt env attempt (.response 429 retryAfter) nowMs now =
        (.markFailed attempt e.message none none, false) := by
      simp only [settleAttempt, hl', and_self, if_true, hr]
    refine ⟨.markFailed attempt e.message none none, some attempt, ?_, Or.inr ⟨⟨e, hr⟩, rfl⟩⟩
    simp [TaskPhase.advance, hs, hl']

def sampleTooMany (retryAfter : String) : OutboxEvent :=
  .proceed 0 (.answered (.response 429 (some retryAfter)) 0 0) 0

end AcdpControlPlane
