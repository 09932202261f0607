import AcdpControlPlane.Common.Trace
import AcdpControlPlane.Webhook.Delivery

/-!
# The webhook outbox

`fireEvent` inserts a row for every subscription that an event matches, and starts to deliver it.
`retryAllPending` and `retryPending` list the rows that are still pending, on any replica and at any
time, and start to deliver them again from the number of attempts they have read. This module is about
all interleavings of this work: each statement on the tables is one step, and so is everything a call
does between two waits.
-/

namespace AcdpControlPlane

open WebhookDeliveryRepository WebhookService List

/-! ## The system -/

/-- Work on a delivery: a row that a sweep has listed, or a call of `deliverWithTracking`. -/
structure DeliveryTask where
  deliveryId : String
  tenantId : String
  payload : WebhookPayload
  phase : TaskPhase

structure WebhookPost where
  deliveryId : String
  payload : WebhookPayload
  target : WebhookTarget
  attempt : ℕ
  sentAt : Int

/-- A call of `fireEvent`, with the subscriptions it has still to insert a delivery for. -/
structure WebhookFiring where
  payload : WebhookPayload
  tenantId : String
  remaining : List Webhook

structure OutboxState where
  webhooks : WebhookTable
  deliveries : DeliveryTable
  firings : List WebhookFiring
  tasks : List DeliveryTask
  posts : List WebhookPost

inductive OutboxEvent where
  | register (webhook : Webhook)
  | updateWebhook (id : String) (fields : UpdateWebhookFields) (tenantId : String)
  | fireEvent (payload : WebhookPayload) (tenantId : String)
  | create (firing : ℕ) (id : String)
  | retryAllPending (now : Int)
  | retryPending (tenantId : String) (now : Int)
  | proceed (task : ℕ) (input : TaskInput) (now : Int)

def sweepRows (deliveries : DeliveryTable) (scope : Option String) (now : Int) :
    List WebhookDelivery :=
  match scope with
  | some tenantId => listPending deliveries tenantId now
  | none => listAllPending deliveries now

def sweepTask (scope : Option String) (row : WebhookDelivery) : DeliveryTask where
  deliveryId := row.id
  tenantId := scope.getD row.tenantId
  payload := row.payload
  phase := .listed row.webhookId row.attempts

namespace OutboxState

def initial (webhooks : WebhookTable) : OutboxState :=
  ⟨webhooks, KeyedTable.empty _, [], [], []⟩

def sweep (s : OutboxState) (scope : Option String) (now : Int) : OutboxState :=
  { s with tasks := s.tasks ++ (sweepRows s.deliveries scope now).map (sweepTask scope) }

def apply (s : OutboxState) (i : ℕ) (task : DeliveryTask) (move : TaskMove) (now : Int) :
    OutboxState :=
  { s with
    deliveries :=
      match move.update with
      | some update => write s.deliveries task.deliveryId task.tenantId update now
      | none => s.deliveries
    tasks :=
      s.tasks.take i ++ ((move.next.map fun phase => { task with phase }).toList ++
        s.tasks.drop (i + 1))
    posts :=
      (move.post.map fun (target, attempt) =>
        ⟨task.deliveryId, task.payload, target, attempt, now⟩).toList ++ s.posts }

def step (env : WebhookEnv) (s : OutboxState) : OutboxEvent → Option OutboxState
  | .register webhook =>
    some { s with webhooks := s.webhooks.insert { webhook with active := true } }
  | .updateWebhook id fields tenantId =>
    some { s with webhooks := WebhookRepository.update s.webhooks id fields tenantId }
  | .fireEvent payload tenantId =>
    let remaining := matchingWebhooks s.webhooks payload tenantId
    some { s with firings := s.firings ++ [⟨payload, tenantId, remaining⟩] }
  | .create firing id =>
    match s.firings[firing]? with
    | some ⟨payload, tenantId, webhook :: remaining⟩ =>
      -- the id is a random UUID, so it is new
      if id ∈ s.deliveries.rows.map WebhookDelivery.id then none
      else
        some { s with
          deliveries := s.deliveries.insert (newDelivery id webhook payload tenantId)
          firings := s.firings.set firing ⟨payload, tenantId, remaining⟩
          tasks := s.tasks ++
            [⟨id, tenantId, payload, .guarding ⟨webhook.url, webhook.secret⟩ 0⟩] }
    | _ => none
  | .retryAllPending now => some (s.sweep none now)
  | .retryPending tenantId now => some (s.sweep (some tenantId) now)
  | .proceed i input now => do
    let task ← s.tasks[i]?
    let move ← task.phase.advance env s.webhooks task.tenantId input
    some (s.apply i task move now)

/-- The number of requests that were sent for a delivery. -/
def postCount (s : OutboxState) (id : String) : ℕ := s.posts.countP (·.deliveryId = id)

end OutboxState

abbrev OutboxRun (env : WebhookEnv) (webhooks : WebhookTable) :=
  TracedRun (fun event s s' => OutboxState.step env s event = some s') (OutboxState.initial webhooks)

def OutboxEvent.lists (s : OutboxState) : OutboxEvent → List WebhookDelivery
  | .retryAllPending now => listAllPending s.deliveries now
  | .retryPending tenantId now => listPending s.deliveries tenantId now
  | _ => []

def ListsUnowned (entry : OutboxEvent × OutboxState) : Prop :=
  ∀ row ∈ entry.1.lists entry.2, ∀ task ∈ entry.2.tasks, task.deliveryId ≠ row.id

instance (entry : OutboxEvent × OutboxState) : Decidable (ListsUnowned entry) :=
  inferInstanceAs (Decidable (∀ row ∈ _, ∀ task ∈ _, _))

/-- No sweep lists this one row while it is being worked on. -/
def ListsFree (id : String) (entry : OutboxEvent × OutboxState) : Prop :=
  ∀ row ∈ entry.1.lists entry.2, row.id = id → ∀ task ∈ entry.2.tasks, task.deliveryId ≠ id

theorem ListsUnowned.listsFree {entry : OutboxEvent × OutboxState} (h : ListsUnowned entry)
    (id : String) : ListsFree id entry :=
  fun row hr hi task ht => hi ▸ h row hr task ht

/-! ## One delivery -/

/-- What concerns one delivery: its row, the work on it and the number of its requests. -/
structure DeliveryView where
  row : Option WebhookDelivery
  tasks : List DeliveryTask
  posts : ℕ

def OutboxState.view (s : OutboxState) (id : String) : DeliveryView where
  row := s.deliveries.find? id
  tasks := s.tasks.filter (·.deliveryId = id)
  posts := s.postCount id

/-- What the end of a wait does, by the kind of wait. -/
inductive TaskPhase.Advances (env : WebhookEnv) : TaskPhase → TaskMove → Prop where
  | found (webhookId : String) (attempts : ℕ) (target : WebhookTarget) :
      Advances env (.listed webhookId attempts) ⟨some (.guarding target attempts), none, none⟩
  | missing (webhookId : String) (attempts : ℕ) :
      Advances env (.listed webhookId attempts) ⟨none, none, none⟩
  | refused (target : WebhookTarget) (startAttempt : ℕ) (message : String) :
      Advances env (.guarding target startAttempt)
        ⟨some (.recording target (.markFailed (startAttempt + 1) message none none) none), none, none⟩
  | entered (target : WebhookTarget) (startAttempt : ℕ) :
      Advances env (.guarding target startAttempt) (enterLoop target (startAttempt + 1))
  | answered (target : WebhookTarget) (attempt : ℕ) (update : DeliveryUpdate) (returns : Bool)
      (result : FetchResult) (nowMs now : Int)
      (settled : settleAttempt env attempt result nowMs now = (update, returns)) :
      Advances env (.awaiting target attempt)
        ⟨some (.recording target update
          (if returns then none else if attempt < maxAttempts then some attempt else none)),
          none, none⟩
  | written (target : WebhookTarget) (update : DeliveryUpdate) (backoff : Option ℕ) :
      Advances env (.recording target update backoff)
        ⟨backoff.map (.backingOff target), none, some update⟩
  | resumed (target : WebhookTarget) (attempt : ℕ) :
      Advances env (.backingOff target attempt) (enterLoop target (attempt + 1))

theorem TaskPhase.advances_of_advance {env : WebhookEnv} {webhooks : WebhookTable}
    {tenantId : String} {input : TaskInput} {phase : TaskPhase} {move : TaskMove}
    (h : phase.advance env webhooks tenantId input = some move) : phase.Advances env move := by
  unfold TaskPhase.advance at h
  split at h
  · split at h <;> cases h
    · exact .found _ _ _
    · exact .missing _ _
  · split at h <;> cases h
    · exact .refused _ _ _
    · exact .entered _ _
  · cases h
    exact .answered _ _ _ _ _ _ _ rfl
  · cases h
    exact .written _ _ _
  · cases h
    exact .resumed _ _
  · cases h

def TaskMove.rowAfter (move : TaskMove) (now : Int) (row : WebhookDelivery) : WebhookDelivery :=
  match move.update with
  | some update => record update now row
  | none => row

/-- What may happen to one delivery, as long as sweeps list unowned rows. -/
inductive DeliveryView.Step (env : WebhookEnv) : DeliveryView → DeliveryView → Prop where
  | created {row : WebhookDelivery} {task : DeliveryTask} {target : WebhookTarget}
      {tasks : List DeliveryTask} {posts : ℕ} (status : row.status = .pending)
      (attempts : row.attempts = 0) (tenant : task.tenantId = row.tenantId)
      (phase : task.phase = .guarding target 0) :
      Step env ⟨none, tasks, posts⟩ ⟨some row, tasks ++ [task], posts⟩
  | listed {row : WebhookDelivery} {task : DeliveryTask} {posts : ℕ}
      (status : row.status = .pending) (tenant : task.tenantId = row.tenantId)
      (phase : task.phase = .listed row.webhookId row.attempts) :
      Step env ⟨some row, [], posts⟩ ⟨some row, [task], posts⟩
  | moved {row? : Option WebhookDelivery} {before after : List DeliveryTask} {task : DeliveryTask}
      {posts : ℕ} {move : TaskMove} {now : Int} (advances : task.phase.Advances env move) :
      Step env ⟨row?, before ++ task :: after, posts⟩
        ⟨row?.map fun row =>
            if row.tenantId = task.tenantId then move.rowAfter now row else row,
          before ++ ((move.next.map fun phase => { task with phase }).toList ++ after),
          posts + move.post.toList.length⟩

/-! ## What a step is to one delivery -/

section Projection

variable {env : WebhookEnv} {s s' : OutboxState} {id : String} {task : DeliveryTask}

theorem filter_sweepTasks (s : OutboxState) (scope : Option String) (now : Int) (id : String) :
    ((sweepRows s.deliveries scope now).map (sweepTask scope)).filter (·.deliveryId = id) =
      ((sweepRows s.deliveries scope now).filter (·.id = id)).map (sweepTask scope) := by
  rw [filter_map]
  rfl

theorem mem_sweepRows {deliveries : DeliveryTable} {scope : Option String} {now : Int}
    {row : WebhookDelivery} (h : row ∈ sweepRows deliveries scope now) :
    row ∈ deliveries.rows ∧ row.status = .pending ∧ scope.getD row.tenantId = row.tenantId := by
  cases scope with
  | none =>
    have hl : row ∈ deliveries.rows ∧ row.status = .pending ∧ dueClause now row = true := by
      simpa [sweepRows, listAllPending] using h
    exact ⟨hl.1, hl.2.1, rfl⟩
  | some tenantId =>
    have hl : row ∈ deliveries.rows ∧ row.status = .pending ∧ row.tenantId = tenantId ∧
        dueClause now row = true := by
      simpa [sweepRows, listPending] using h
    exact ⟨hl.1, hl.2.1, hl.2.2.1.symm⟩

theorem filter_sweepRows (deliveries : DeliveryTable) (scope : Option String) (now : Int) (id : String) :
    (sweepRows deliveries scope now).filter (·.id = id) = [] ∨
      ∃ row, deliveries.find? id = some row ∧ row ∈ sweepRows deliveries scope now ∧
        (sweepRows deliveries scope now).filter (·.id = id) = [row] := by
  -- both statements select rows by a test
  have hs : ∃ keep : WebhookDelivery → Bool,
      sweepRows deliveries scope now = deliveries.rows.filter keep := by
    cases scope with
    | none => exact ⟨_, rfl⟩
    | some tenantId => exact ⟨_, rfl⟩
  obtain ⟨keep, hk⟩ := hs
  have hf : (sweepRows deliveries scope now).filter (·.id = id) =
      (deliveries.find? id).toList.filter keep := by
    rw [hk, ← KeyedTable.filter_key_eq, filter_filter, filter_filter]
    simp only [Bool.and_comm]
  rw [hf]
  -- an id has one row at most, and the test decides about it
  cases hfn : deliveries.find? id with
  | none => exact Or.inl rfl
  | some row =>
    cases hr : keep row with
    | false => exact Or.inl (by simp [hr])
    | true =>
      have hm := (KeyedTable.find?_eq_some_iff.mp hfn).1
      refine Or.inr ⟨row, rfl, ?_, by simp [hr]⟩
      rw [hk]
      exact mem_filter.mpr ⟨hm, hr⟩

theorem view_sweep (scope : Option String) (now : Int) :
    (s.sweep scope now).view id =
      { s.view id with
        tasks := (s.view id).tasks ++
          ((sweepRows s.deliveries scope now).filter (·.id = id)).map (sweepTask scope) } := by
  rw [← filter_sweepTasks]
  simp [OutboxState.view, OutboxState.sweep, OutboxState.postCount]

theorem viewStep_of_sweep {scope : Option String} {now : Int}
    (hfr : ∀ row ∈ sweepRows s.deliveries scope now, row.id = id → ∀ task ∈ s.tasks,
      task.deliveryId ≠ id) :
    (s.sweep scope now).view id = s.view id ∨
      DeliveryView.Step env (s.view id) ((s.sweep scope now).view id) := by
  rw [view_sweep]
  rcases filter_sweepRows s.deliveries scope now id with hn | ⟨row, hf, hl, ho⟩
  · left
    simp [hn]
  · right
    obtain ⟨-, hp, hte⟩ := mem_sweepRows hl
    have hid : row.id = id := (KeyedTable.find?_eq_some_iff.mp hf).2
    -- nobody works on the row
    have hi : (s.view id).tasks = [] := by
      apply filter_eq_nil_iff.mpr
      intro task ht
      simpa using hfr row hl hid task ht
    have hr : (s.view id).row = some row := hf
    rw [ho]
    generalize s.view id = view at hi hr ⊢
    obtain ⟨row?, tasks, posts⟩ := view
    cases hi
    cases hr
    exact .listed hp hte rfl

theorem view_insert_of_ne {row : WebhookDelivery}
    {firings : List WebhookFiring} (hf : row.id ∉ s.deliveries.rows.map WebhookDelivery.id)
    (ht : task.deliveryId = row.id) (hi : row.id ≠ id) :
    OutboxState.view { s with deliveries := s.deliveries.insert row, firings := firings,
                              tasks := s.tasks ++ [task] } id = s.view id := by
  simp [OutboxState.view, OutboxState.postCount, KeyedTable.find?_insert hf, ht, hi]

theorem viewStep_of_create {row : WebhookDelivery} {target : WebhookTarget}
    {firings : List WebhookFiring} (hf : row.id ∉ s.deliveries.rows.map WebhookDelivery.id)
    (ht : task.deliveryId = row.id) (hte : task.tenantId = row.tenantId)
    (hs : row.status = .pending) (ha : row.attempts = 0) (hp : task.phase = .guarding target 0)
    (hs' : s' = { s with deliveries := s.deliveries.insert row, firings := firings,
                         tasks := s.tasks ++ [task] }) :
    s'.view id = s.view id ∨ DeliveryView.Step env (s.view id) (s'.view id) := by
  subst hs'
  by_cases hi : row.id = id
  · right
    -- the id is new, so there was no row
    have hn : (s.view id).row = none := by
      subst hi
      exact KeyedTable.find?_eq_none_iff.mpr hf
    have hv : OutboxState.view { s with deliveries := s.deliveries.insert row,
                                           firings := firings, tasks := s.tasks ++ [task] } id =
        ⟨some row, (s.view id).tasks ++ [task], (s.view id).posts⟩ := by
      simp [OutboxState.view, OutboxState.postCount, KeyedTable.find?_insert hf, ht, hi]
    rw [hv]
    generalize s.view id = view at hn ⊢
    obtain ⟨row?, tasks, posts⟩ := view
    cases hn
    exact .created hs ha hte hp
  · exact Or.inl (view_insert_of_ne hf ht hi)

theorem find?_apply {i : ℕ} {move : TaskMove} {now : Int} :
    (s.apply i task move now).deliveries.find? id = (s.deliveries.find? id).map fun row =>
        if id = task.deliveryId ∧ row.tenantId = task.tenantId then move.rowAfter now row
        else row := by
  cases hu : move.update with
  | none =>
    have hs : (s.apply i task move now).deliveries = s.deliveries := by
      simp [OutboxState.apply, hu]
    rw [hs]
    simp [TaskMove.rowAfter, hu]
  | some update =>
    have hw : (s.apply i task move now).deliveries =
        write s.deliveries task.deliveryId task.tenantId update now := by
      simp [OutboxState.apply, hu]
    rw [hw, write, KeyedTable.find?_modify]
    cases hf : s.deliveries.find? id with
    | none => rfl
    | some row =>
      -- the statement finds the row by its id, and then only its tenant matters
      have hi : row.id = id := (KeyedTable.find?_eq_some_iff.mp hf).2
      simp [recordOf, TaskMove.rowAfter, hu, hi]

theorem tasks_eq_of_getElem? {i : ℕ} (ht : s.tasks[i]? = some task) :
    s.tasks = s.tasks.take i ++ task :: s.tasks.drop (i + 1) := by
  obtain ⟨hi, rfl⟩ := List.getElem?_eq_some_iff.mp ht
  rw [getElem_cons_drop, take_append_drop]

theorem view_apply_of_ne {i : ℕ} {move : TaskMove} {now : Int}
    (ht : s.tasks[i]? = some task) (hi : task.deliveryId ≠ id) :
    (s.apply i task move now).view id = s.view id := by
  unfold OutboxState.view
  rw [find?_apply]
  congr 1
  · cases s.deliveries.find? id <;> simp [Ne.symm hi]
  · conv_rhs => rw [tasks_eq_of_getElem? ht]
    cases hn : move.next <;> simp [OutboxState.apply, hn, hi]
  · cases hp : move.post <;> simp [OutboxState.apply, OutboxState.postCount, hp, hi]

theorem view_apply_of_eq {i : ℕ} (ht : s.tasks[i]? = some task)
    (hi : task.deliveryId = id) (move : TaskMove) (now : Int) :
    ∃ before after, s.view id = ⟨s.deliveries.find? id, before ++ task :: after, s.postCount id⟩ ∧
      (s.apply i task move now).view id = ⟨(s.deliveries.find? id).map fun row =>
            if row.tenantId = task.tenantId then move.rowAfter now row else row,
          before ++ ((move.next.map fun phase => { task with phase }).toList ++ after),
          s.postCount id + move.post.toList.length⟩ := by
  refine ⟨(s.tasks.take i).filter (·.deliveryId = id),
    (s.tasks.drop (i + 1)).filter (·.deliveryId = id), ?_, ?_⟩
  · unfold OutboxState.view
    conv_lhs => rw [tasks_eq_of_getElem? ht]
    simp [hi]
  · unfold OutboxState.view
    rw [find?_apply]
    congr 1
    · simp [hi]
    · cases hn : move.next <;> simp [OutboxState.apply, hn, hi]
    · cases hp : move.post <;>
        simp [OutboxState.apply, OutboxState.postCount, hp, hi, Nat.add_comm]

theorem viewStep_of_step {event : OutboxEvent} (h : s.step env event = some s')
    (hf : ListsFree id (event, s)) :
    s'.view id = s.view id ∨ DeliveryView.Step env (s.view id) (s'.view id) := by
  cases event with
  -- subscriptions are not part of a view
  | register webhook =>
    cases h
    exact Or.inl rfl
  | updateWebhook webhookId fields tenantId =>
    cases h
    exact Or.inl rfl
  | fireEvent payload tenantId =>
    cases h
    exact Or.inl rfl
  | create firing deliveryId =>
    simp only [OutboxState.step] at h
    split at h
    · split at h
      · cases h
      · next hn =>
        exact viewStep_of_create hn rfl rfl rfl rfl rfl (Option.some.inj h).symm
    · cases h
  | retryAllPending now =>
    cases h
    exact viewStep_of_sweep hf
  | retryPending tenantId now =>
    cases h
    exact viewStep_of_sweep hf
  | proceed i input now =>
    simp only [OutboxState.step, Option.bind_eq_bind, Option.bind_eq_some_iff] at h
    obtain ⟨task, ht, move, hm, hs'⟩ := h
    cases hs'
    by_cases hi : task.deliveryId = id
    · obtain ⟨before, after, hv, hv'⟩ := view_apply_of_eq ht hi move now
      rw [hv, hv']
      exact Or.inr (.moved (TaskPhase.advances_of_advance hm))
    · exact Or.inl (view_apply_of_ne ht hi)

end Projection

/-! ## The life of one delivery -/

/-- What the counts are while a task waits: `attempts` is in the row, and `posts` requests were sent. A
call is ahead of its row from the request to the statement that records its outcome. -/
def TaskPhase.Sound (attempts posts : ℕ) : TaskPhase → Prop
  | .listed _ start => attempts = start ∧ start < 3 ∧ posts ≤ start
  | .guarding _ start => attempts = start ∧ start < 3 ∧ posts ≤ start
  | .awaiting _ attempt => attempt ≤ 3 ∧ posts ≤ attempt
  | .recording _ (.markDelivered _) backoff => backoff = none ∧ posts ≤ 3
  | .recording _ (.markFailed attempt _ _ _) backoff =>
    attempt ≤ 3 ∧ posts ≤ attempt ∧ ∀ k, backoff = some k → k = attempt ∧ attempt < 3
  | .backingOff _ attempt => attempts = attempt ∧ attempt < 3 ∧ posts ≤ attempt

/-- A delivery has one owner at most, and only while it is pending. -/
inductive DeliveryView.Sound : DeliveryView → Prop where
  | absent : Sound ⟨none, [], 0⟩
  | idle {row : WebhookDelivery} {posts : ℕ} (bound : posts ≤ 3)
      (pending : row.status = .pending → row.attempts < 3 ∧ posts ≤ row.attempts) :
      Sound ⟨some row, [], posts⟩
  | owned {row : WebhookDelivery} {task : DeliveryTask} {posts : ℕ} (status : row.status = .pending)
      (tenant : task.tenantId = row.tenantId) (phase : task.phase.Sound row.attempts posts) :
      Sound ⟨some row, [task], posts⟩

namespace DeliveryView

variable {env : WebhookEnv} {view view' : DeliveryView}

theorem Sound.posts_le (h : view.Sound) : view.posts ≤ 3 := by
  cases h with
  | absent => exact Nat.zero_le 3
  | idle bound => exact bound
  | @owned row task posts _ _ phase =>
    -- in every phase the requests are bounded by the number of an attempt
    show posts ≤ 3
    cases hp : task.phase with
    | recording target update backoff =>
      rw [hp] at phase
      cases update with
      | markDelivered responseStatus => exact phase.2
      | markFailed attempt message status next => exact Nat.le_trans phase.2.1 phase.1
    | _ =>
      rw [hp] at phase
      simp only [TaskPhase.Sound] at phase
      omega

theorem sound_of_settleAttempt {attempts posts attempt : ℕ} (target : WebhookTarget)
    {update : DeliveryUpdate} {returns : Bool} {result : FetchResult} {nowMs now : Int}
    (ha : attempt ≤ 3) (hp : posts ≤ attempt)
    (settled : settleAttempt env attempt result nowMs now = (update, returns)) :
    TaskPhase.Sound attempts posts (.recording target update
      (if returns then none else if attempt < maxAttempts then some attempt else none)) := by
  rcases settleAttempt_cases env attempt result nowMs now with ⟨status, h⟩ | ⟨m, st, n, r, h⟩
  · rw [settled] at h
    cases h
    exact ⟨rfl, Nat.le_trans hp ha⟩
  · rw [settled] at h
    cases h
    refine ⟨ha, hp, ?_⟩
    intro k hk
    cases returns with
    | true => cases hk
    | false =>
      -- a failed call backs off below the third attempt, and ends after it
      by_cases hl : attempt < maxAttempts
      · rw [if_neg Bool.false_ne_true, if_pos hl] at hk
        cases hk
        exact ⟨rfl, hl⟩
      · rw [if_neg Bool.false_ne_true, if_neg hl] at hk
        cases hk

variable {row : WebhookDelivery} {task : DeliveryTask} {posts : ℕ}

theorem sound_enterLoop (now : Int) (target : WebhookTarget) {k : ℕ} (hs : row.status = .pending)
    (ht : task.tenantId = row.tenantId) (hk : k < 3) (hp : posts ≤ k) :
    Sound ⟨some ((enterLoop target (k + 1)).rowAfter now row),
      ((enterLoop target (k + 1)).next.map fun phase => { task with phase }).toList,
      posts + (enterLoop target (k + 1)).post.toList.length⟩ := by
  have hi : k + 1 ≤ maxAttempts := hk
  rw [enterLoop, if_pos hi]
  exact .owned hs ht ⟨hk, Nat.succ_le_succ hp⟩

theorem sound_written (now : Int) (target : WebhookTarget) {update : DeliveryUpdate}
    {backoff : Option ℕ} (ht : task.tenantId = row.tenantId)
    (hph : TaskPhase.Sound row.attempts posts (.recording target update backoff)) :
    Sound ⟨some (record update now row),
      ((backoff.map (TaskPhase.backingOff target)).map fun phase => { task with phase }).toList,
      posts⟩ := by
  cases update with
  | markDelivered responseStatus =>
    obtain ⟨rfl, hp⟩ := hph
    refine .idle hp ?_
    intro hpe
    cases hpe
  | markFailed attempt message status next =>
    obtain ⟨ha, hp, hb⟩ := hph
    cases backoff with
    | none =>
      refine .idle (Nat.le_trans hp ha) ?_
      intro hpe
      -- the row is pending below the third attempt only
      have hl : attempt < 3 := by
        by_contra hg
        simp [record, markFailed, Nat.le_of_not_lt hg] at hpe
      exact ⟨hl, hp⟩
    | some k =>
      obtain ⟨rfl, hl⟩ := hb k rfl
      refine .owned ?_ ht ⟨rfl, hl, hp⟩
      simp [record, markFailed, Nat.not_le_of_lt hl]

theorem Sound.moved {move : TaskMove} (now : Int) (hs : row.status = .pending)
    (ht : task.tenantId = row.tenantId) (hp : task.phase.Sound row.attempts posts)
    (ha : task.phase.Advances env move) :
    Sound ⟨some (move.rowAfter now row),
      (move.next.map fun phase => { task with phase }).toList, posts + move.post.toList.length⟩ := by
  obtain ⟨deliveryId, tenantId, payload, phase⟩ := task
  cases ha with
  | found webhookId attempts target => exact .owned hs ht hp
  | missing webhookId attempts =>
    obtain ⟨hat, hl, hps⟩ := hp
    subst hat
    exact .idle (Nat.le_trans hps (Nat.le_of_lt hl)) fun _ => ⟨hl, hps⟩
  | refused target startAttempt message =>
    obtain ⟨-, hl, hps⟩ := hp
    -- the gate counts as an attempt, although nothing was sent
    refine .owned hs ht ⟨hl, Nat.le_succ_of_le hps, ?_⟩
    intro k hk
    cases hk
  | entered target startAttempt =>
    exact sound_enterLoop now target hs ht hp.2.1 hp.2.2
  | resumed target attempt =>
    exact sound_enterLoop now target hs ht hp.2.1 hp.2.2
  | answered target attempt update returns result nowMs now' settled =>
    exact .owned hs ht (sound_of_settleAttempt target hp.1 hp.2 settled)
  | written target update backoff => exact sound_written now target ht hp

theorem Sound.step (h : view.Sound) (hs : view.Step env view') : view'.Sound := by
  cases hs with
  | @created row task target tasks posts status attempts tenant phase =>
    cases h
    refine .owned status tenant ?_
    rw [phase, attempts]
    exact ⟨rfl, by decide, Nat.le_refl 0⟩
  | @listed row task posts status tenant phase =>
    cases h with
    | idle _ pending =>
      refine .owned status tenant ?_
      rw [phase]
      exact ⟨rfl, pending status⟩
  | @moved row? before after task posts move now advances =>
    -- the delivery has an owner, and it is the one that moves
    have ho : ∃ row, row? = some row ∧ before = [] ∧ after = [] ∧ row.status = .pending ∧
        task.tenantId = row.tenantId ∧ task.phase.Sound row.attempts posts := by
      generalize ht : before ++ task :: after = tasks at h
      cases h with
      | absent => simp at ht
      | idle => simp at ht
      | owned status tenant phase =>
        obtain ⟨rfl, hl⟩ | ⟨_, _, hn⟩ := append_eq_cons_iff.mp ht
        · cases hl
          exact ⟨_, rfl, rfl, rfl, status, tenant, phase⟩
        · simp at hn
    obtain ⟨row, rfl, rfl, rfl, hst, hte, hp⟩ := ho
    rw [Option.map_some, if_pos hte.symm, nil_append, append_nil]
    exact Sound.moved now hst hte hp advances

theorem Sound.finished (h : view.Sound) {row : WebhookDelivery} (hr : view.row = some row)
    (hd : row.status ≠ .pending) : ¬ view.Step env view' := by
  intro hs
  cases h with
  | absent => cases hr
  | owned status =>
    cases hr
    exact hd status
  | idle =>
    cases hr
    generalize hv : (⟨some row, [], _⟩ : DeliveryView) = view at hs
    cases hs with
    | created => cases hv
    | listed status =>
      cases hv
      exact hd status
    | moved =>
      have ht := congrArg DeliveryView.tasks hv
      simp at ht

end DeliveryView

/-! ## Runs -/

section Runs

variable {env : WebhookEnv} {webhooks : WebhookTable} {s : OutboxState} {id : String}
  {history : List (OutboxEvent × OutboxState)}

theorem outbox_sound (hr : OutboxRun env webhooks history s)
    (hf : ∀ entry ∈ history, ListsFree id entry) : (s.view id).Sound := by
  induction hr with
  | start => exact .absent
  | step run next ih =>
    have hs := ih fun entry hen => hf entry (mem_cons_of_mem _ hen)
    rcases viewStep_of_step next (hf _ (mem_cons_self ..)) with hsa | hst
    · rw [hsa]
      exact hs
    · exact hs.step hst

theorem view_of_finished {later : List (OutboxEvent × OutboxState)} {s' : OutboxState}
    {row : WebhookDelivery} (hru : OutboxRun env webhooks history s)
    (hl : OutboxRun env webhooks (later ++ history) s')
    (hf : ∀ entry ∈ later ++ history, ListsFree id entry) (hr : (s.view id).row = some row)
    (hd : row.status ≠ .pending) : s'.view id = s.view id := by
  induction later generalizing s' with
  | nil => rw [hl.eq_of_run hru]
  | cons entry later ih =>
    cases hl with
    | step run next =>
      have hp : ∀ entry ∈ later ++ history, ListsFree id entry :=
        fun entry hen => hf entry (mem_cons_of_mem _ hen)
      have hs := ih run hp
      rcases viewStep_of_step next (hf _ (mem_cons_self ..)) with hk | hst
      · rw [hk, hs]
      · -- the row is still there, and still finished
        rw [← hs] at hr
        exact absurd hst ((outbox_sound run hp).finished hr hd)

theorem outbox_run (hr : OutboxRun env webhooks history s)
    (hu : ∀ entry ∈ history, ListsUnowned entry) :
    (∀ id, (s.view id).Sound) ∧
      ∀ entry ∈ history, ∀ row ∈ entry.2.deliveries.rows, row.status ≠ .pending →
        s.view row.id = entry.2.view row.id := by
  refine ⟨fun id => outbox_sound hr fun entry hen => (hu entry hen).listsFree id, ?_⟩
  intro entry hen row hro hd
  obtain ⟨later, earlier, rfl⟩ := append_of_mem hen
  have ha : later ++ entry :: earlier = (later ++ [entry]) ++ earlier := by simp
  refine view_of_finished hr.at_entry.1 (ha ▸ hr) ?_
    (KeyedTable.find?_eq_some_iff.mpr ⟨hro, rfl⟩) hd
  rw [← ha]
  exact fun entry hen => (hu entry hen).listsFree row.id

/-- The outbox, as long as sweeps list unowned rows: a delivered row never changes, at most three
requests are sent for a delivery, and none after it has failed. -/
theorem outbox_at_most_three (hrun : OutboxRun env webhooks history s)
    (hunowned : ∀ entry ∈ history, ListsUnowned entry) :
    (∀ entry ∈ history, ∀ row ∈ entry.2.deliveries.rows, row.status = .delivered →
      row ∈ s.deliveries.rows) ∧
    (∀ id, s.postCount id ≤ 3) ∧
    ∀ entry ∈ history, ∀ row ∈ entry.2.deliveries.rows, row.status = .failed →
      s.postCount row.id = entry.2.postCount row.id := by
  obtain ⟨hsn, hk⟩ := outbox_run hrun hunowned
  refine ⟨?_, fun id => (hsn id).posts_le, ?_⟩
  · intro entry hen row hr hd
    have hs := hk entry hen row hr (by rw [hd]; decide)
    have hfn : s.deliveries.find? row.id = some row :=
      (congrArg DeliveryView.row hs).trans (KeyedTable.find?_eq_some_iff.mpr ⟨hr, rfl⟩)
    exact (KeyedTable.find?_eq_some_iff.mp hfn).1
  · intro entry hen row hr hf
    have hs := hk entry hen row hr (by rw [hf]; decide)
    exact congrArg DeliveryView.posts hs

end Runs

/-! ## Sweeps that overlap -/

def sampleWebhookEnv : WebhookEnv where
  pg := ⟨fun _ => .error ⟨"invalid input syntax for type timestamp with time zone"⟩, fun _ => ""⟩
  otherDates _ := none

def sampleWebhook : Webhook :=
  ⟨"webhook", "default", "https://subscriber.example/hook", [], "secret", true⟩

def sampleWebhooks : WebhookTable := (KeyedTable.empty _).insert sampleWebhook

def sampleWebhookPayload : WebhookPayload :=
  ⟨"run.started", "run", "2026-01-01T00:00:00.000Z", none⟩

def sampleFiring : List OutboxEvent :=
  [.fireEvent sampleWebhookPayload "default", .create 0 "delivery"]

def sampleAttempt (task status : ℕ) : List OutboxEvent :=
  [.proceed task (.answered (.response status none) 0 0) 0, .proceed task .written 0]

def sampleLateDelivery : List OutboxEvent :=
  sampleFiring ++ [.proceed 0 (.guarded (some "DNS lookup failed")) 0, .proceed 0 .written 0,
    .retryAllPending 60000, .proceed 0 .lookup 60000, .proceed 0 (.guarded none) 60000] ++
  sampleAttempt 0 200

/-- The late delivery is a run in which the sweep lists an unowned row. -/
theorem outbox_at_most_three_late :
    ∃ history s, OutboxRun sampleWebhookEnv sampleWebhooks history s ∧
      s.deliveries.rows.map (·.status) = [.delivered] ∧ s.postCount "delivery" = 1 ∧
      ((∀ entry ∈ history, ∀ row ∈ entry.2.deliveries.rows, row.status = .delivered →
        row ∈ s.deliveries.rows) ∧
      (∀ id, s.postCount id ≤ 3) ∧
      ∀ entry ∈ history, ∀ row ∈ entry.2.deliveries.rows, row.status = .failed →
        s.postCount row.id = entry.2.postCount row.id) := by
  obtain ⟨history, s, hr, hu, hen⟩ : ∃ history s,
      OutboxRun sampleWebhookEnv sampleWebhooks history s ∧ (∀ entry ∈ history, ListsUnowned entry) ∧
      s.deliveries.rows.map (·.status) = [.delivered] ∧ s.postCount "delivery" = 1 :=
    exists_run_of_replay sampleLateDelivery ⟨_, rfl, by decide, by decide, by decide⟩
  exact ⟨history, s, hr, hen.1, hen.2, outbox_at_most_three hr hu⟩

def sampleOverlap : List OutboxEvent :=
  sampleFiring ++ [.proceed 0 (.guarded none) 0] ++ sampleAttempt 0 500 ++
  [.retryAllPending 0, .retryAllPending 0] ++
  [.proceed 0 .woken 0] ++ sampleAttempt 0 500 ++ [.proceed 0 .woken 0] ++ sampleAttempt 0 500 ++
  [.proceed 0 .lookup 0, .proceed 0 (.guarded none) 0,
    .proceed 1 .lookup 0, .proceed 1 (.guarded none) 0] ++
  sampleAttempt 0 200 ++ sampleAttempt 0 500

/-- When sweeps overlap with a call, a delivered row changes, more than three requests are sent for
it, and some of them after it has failed. -/
theorem overlapping_sweeps :
    ∃ history s, OutboxRun sampleWebhookEnv sampleWebhooks history s ∧
      (∃ entry ∈ history, ∃ row ∈ entry.2.deliveries.rows, row.status = .delivered ∧
        row ∉ s.deliveries.rows) ∧
      s.postCount "delivery" = 5 ∧
      ∃ entry ∈ history, ∃ row ∈ entry.2.deliveries.rows, row.status = .failed ∧
        entry.2.postCount row.id = 3 ∧ s.postCount row.id = 5 := by
  obtain ⟨history, s, hru, ⟨entry, hent, row, hr, hd⟩, hp, hen⟩ : ∃ history s,
      OutboxRun sampleWebhookEnv sampleWebhooks history s ∧
      (∃ entry ∈ history, ∃ row ∈ entry.2.deliveries.rows, row.status = .delivered) ∧
      (∀ row ∈ s.deliveries.rows, row.status = .pending) ∧ s.postCount "delivery" = 5 ∧
      ∃ entry ∈ history, ∃ row ∈ entry.2.deliveries.rows, row.status = .failed ∧
        entry.2.postCount row.id = 3 ∧ s.postCount row.id = 5 :=
    exists_run_of_replay sampleOverlap ⟨_, rfl, by decide, by decide, by decide, by decide⟩
  refine ⟨history, s, hru, ⟨entry, hent, row, hr, hd, ?_⟩, hen⟩
  -- at the end of the run all rows are pending
  intro hl
  rw [hp row hl] at hd
  cases hd

end AcdpControlPlane
