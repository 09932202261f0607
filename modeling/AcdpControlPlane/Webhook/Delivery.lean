import AcdpControlPlane.Common.DidAuthority
import AcdpControlPlane.Date.Text
import AcdpControlPlane.Storage.Statement
import AcdpControlPlane.Storage.Table

/-!
# The delivery of a webhook event

`deliverWithTracking` of `src/webhooks/webhook.service.ts`, cut where it waits: at the SSRF gate, at
the response of the subscriber, at the statement that records the outcome, and at the backoff before
the next attempt. Between two waits it runs without interruption, so a call is described by what it is
waiting for, and by what it does when the wait is over. The statements are those of
`src/webhooks/webhook-delivery.repository.ts` and `src/webhooks/webhook.repository.ts`.
-/

namespace AcdpControlPlane

/-! ## Rows -/

structure WebhookPayload where
  event : String
  runId : String
  timestamp : String
  data : Option Json

/-- A row of `webhooks`. -/
structure Webhook where
  id : String
  tenantId : String
  url : String
  events : List String
  secret : String
  active : Bool
deriving DecidableEq, Repr

structure UpdateWebhookFields where
  url : Option String
  events : Option (List String)
  secret : Option String
  active : Option Bool

inductive DeliveryStatus where
  | pending
  | delivered
  | failed
deriving DecidableEq, Repr

/-- A row of `webhook_deliveries`. Instants are in microseconds. -/
structure WebhookDelivery where
  id : String
  tenantId : String
  webhookId : String
  payload : WebhookPayload
  status : DeliveryStatus
  attempts : ℕ
  lastAttemptAt : Option Int
  responseStatus : Option ℕ
  errorMessage : Option String
  deliveredAt : Option Int
  nextAttemptAt : Option Int

/-! ## Subscriptions -/

abbrev WebhookTable := KeyedTable Webhook.id

namespace WebhookRepository

def findById (webhooks : WebhookTable) (id tenantId : String) : Option Webhook :=
  webhooks.rows.find? fun webhook => webhook.id = id ∧ webhook.tenantId = tenantId

def listActive (webhooks : WebhookTable) (tenantId : String) : List Webhook :=
  webhooks.rows.filter fun webhook => webhook.active ∧ webhook.tenantId = tenantId

def applyFields (fields : UpdateWebhookFields) (webhook : Webhook) : Webhook :=
  { webhook with
    url := fields.url.getD webhook.url
    events := fields.events.getD webhook.events
    secret := fields.secret.getD webhook.secret
    active := fields.active.getD webhook.active }

def update (webhooks : WebhookTable) (id : String) (fields : UpdateWebhookFields)
    (tenantId : String) : WebhookTable :=
  webhooks.modify
    (fun webhook =>
      if webhook.id = id ∧ webhook.tenantId = tenantId then applyFields fields webhook else webhook)
    (by intro webhook; split <;> rfl)

end WebhookRepository

def matchingWebhooks (webhooks : WebhookTable) (payload : WebhookPayload) (tenantId : String) :
    List Webhook :=
  (WebhookRepository.listActive webhooks tenantId).filter fun webhook =>
    webhook.events.length = 0 ∨ webhook.events.contains payload.event

/-! ## Statements on deliveries -/

abbrev DeliveryTable := KeyedTable WebhookDelivery.id

/-- The columns that a recorded outcome sets. -/
inductive DeliveryUpdate where
  | markDelivered (responseStatus : ℕ)
  | markFailed (attempt : ℕ) (errorMessage : String) (responseStatus : Option ℕ)
      (nextAttemptAt : Option Int)
deriving DecidableEq, Repr

namespace WebhookDeliveryRepository

/-- The row that `create` inserts. -/
def newDelivery (id : String) (webhook : Webhook) (payload : WebhookPayload) (tenantId : String) :
    WebhookDelivery where
  id := id
  tenantId := tenantId
  webhookId := webhook.id
  payload := payload
  status := .pending
  attempts := 0
  lastAttemptAt := none
  responseStatus := none
  errorMessage := none
  deliveredAt := none
  nextAttemptAt := none

def markDelivered (responseStatus : ℕ) (now : Int) (row : WebhookDelivery) : WebhookDelivery :=
  { row with
    status := .delivered
    responseStatus := some responseStatus
    lastAttemptAt := some (1000 * now)
    deliveredAt := some (1000 * now) }

def markFailed (attempt : ℕ) (errorMessage : String) (responseStatus : Option ℕ)
    (nextAttemptAt : Option Int) (now : Int) (row : WebhookDelivery) : WebhookDelivery :=
  { row with
    status := if attempt ≥ 3 then .failed else .pending
    attempts := attempt
    lastAttemptAt := some (1000 * now)
    errorMessage := some errorMessage
    -- a value that is undefined leaves its column out of the statement
    responseStatus := responseStatus.orElse fun _ => row.responseStatus
    nextAttemptAt := nextAttemptAt }

def record (update : DeliveryUpdate) (now : Int) : WebhookDelivery → WebhookDelivery :=
  match update with
  | .markDelivered responseStatus => markDelivered responseStatus now
  | .markFailed attempt errorMessage responseStatus nextAttemptAt =>
    markFailed attempt errorMessage responseStatus nextAttemptAt now

@[simp] theorem id_record (update : DeliveryUpdate) (now : Int) (row : WebhookDelivery) :
    (record update now row).id = row.id := by
  cases update <;> rfl

/-- The columns that `record` sets, in the row that has the key. Its status is not a condition. -/
def recordOf (id tenantId : String) (update : DeliveryUpdate) (now : Int) (row : WebhookDelivery) :
    WebhookDelivery :=
  if row.id = id ∧ row.tenantId = tenantId then record update now row else row

@[simp] theorem id_recordOf (id tenantId : String) (update : DeliveryUpdate) (now : Int)
    (row : WebhookDelivery) : (recordOf id tenantId update now row).id = row.id := by
  unfold recordOf
  split
  · exact id_record update now row
  · rfl

/-- The statements `UPDATE … WHERE id = … AND tenant_id = …`. -/
def write (deliveries : DeliveryTable) (id tenantId : String) (update : DeliveryUpdate)
    (now : Int) : DeliveryTable :=
  deliveries.modify (recordOf id tenantId update now) (id_recordOf id tenantId update now)

def dueClause (now : Int) (row : WebhookDelivery) : Bool :=
  match row.nextAttemptAt with
  | none => true
  | some nextAttemptAt => nextAttemptAt ≤ 1000 * now

def listPending (deliveries : DeliveryTable) (tenantId : String) (now : Int) :
    List WebhookDelivery :=
  deliveries.rows.filter fun row =>
    row.status = .pending ∧ row.tenantId = tenantId ∧ dueClause now row

def listAllPending (deliveries : DeliveryTable) (now : Int) : List WebhookDelivery :=
  deliveries.rows.filter fun row => row.status = .pending ∧ dueClause now row

end WebhookDeliveryRepository

/-! ## The answer of the subscriber -/

/-- What an attempt depends on outside the service. -/
structure WebhookEnv where
  pg : Timestamptz
  otherDates : String → Option Int

def decimalValue (digits : List Char) : ℕ :=
  digits.foldl (fun acc c => acc * 10 + (c.toNat - '0'.toNat)) 0

/-- The delay of a `Retry-After` header, in milliseconds. A number of seconds that a double rounds is
beyond every date, and stays beyond when it is rounded. -/
def parseRetryAfterMs (otherDates : String → Option Int) (headerValue : Option String)
    (nowMs : Int) : Option ℕ := do
  let header ← headerValue
  let trimmed := jsTrim header
  if trimmed = "" then none
  else if trimmed.toList.all Char.isDigit then some (decimalValue trimmed.toList * 1000)
  else do
    let dateMs ← JsDate.parse otherDates trimmed
    some (dateMs - nowMs).toNat

/-- The outcome of `fetch`. -/
inductive FetchResult where
  | response (status : ℕ) (retryAfter : Option String)
  | failed (message : String)
deriving DecidableEq, Repr

/-- The instant that a `Retry-After` header defers the next attempt to, or the error thrown on the way
to its column. The clock is read twice, by `parseRetryAfterMs` and for the date. -/
def deferral (env : WebhookEnv) (retryAfter : Option String) (nowMs now : Int) :
    Option (Except JsError Int) :=
  (parseRetryAfterMs env.otherDates retryAfter nowMs).map fun delayMs =>
    if JsDate.InRange (now + delayMs) then env.pg.read (JsDate.toISOString (now + delayMs))
    else .error ⟨"Invalid time value"⟩

namespace WebhookService

def maxAttempts : ℕ := 3

/-- What an attempt records, and whether the call returns then. What is thrown before the outcome is
recorded is caught, and recorded as a failure without a response. -/
def settleAttempt (env : WebhookEnv) (attempt : ℕ) (result : FetchResult) (nowMs now : Int) :
    DeliveryUpdate × Bool :=
  match result with
  | .failed message => (.markFailed attempt message none none, false)
  | .response status retryAfter =>
    let deferred :=
      if status = 429 ∧ attempt < maxAttempts then deferral env retryAfter nowMs now else none
    match deferred with
    | some (.ok nextAttemptAt) =>
      (.markFailed attempt ("webhook returned 429 (Retry-After: " ++ retryAfter.getD "null" ++ ")")
        (some status) (some nextAttemptAt), true)
    | some (.error e) => (.markFailed attempt e.message none none, false)
    | none =>
      if 200 ≤ status ∧ status ≤ 299 then (.markDelivered status, true)
      else (.markFailed attempt ("webhook returned " ++ toString status) (some status) none, false)

end WebhookService

theorem settleAttempt_cases (env : WebhookEnv) (attempt : ℕ) (result : FetchResult) (nowMs now : Int) :
    (∃ status, WebhookService.settleAttempt env attempt result nowMs now =
      (.markDelivered status, true)) ∨
    (∃ message status next returns, WebhookService.settleAttempt env attempt result nowMs now =
      (.markFailed attempt message status next, returns)) := by
  unfold WebhookService.settleAttempt
  cases result with
  | failed message => exact Or.inr ⟨_, _, _, _, rfl⟩
  | response status retryAfter =>
    dsimp only
    split
    · exact Or.inr ⟨_, _, _, _, rfl⟩
    · exact Or.inr ⟨_, _, _, _, rfl⟩
    · split
      · exact Or.inl ⟨_, rfl⟩
      · exact Or.inr ⟨_, _, _, _, rfl⟩

/-! ## Calls -/

/-- Where a delivery is sent, as the subscription had it when the call was made. -/
structure WebhookTarget where
  url : String
  secret : String
deriving DecidableEq, Repr

inductive TaskPhase where
  | listed (webhookId : String) (attempts : ℕ)
  | guarding (target : WebhookTarget) (startAttempt : ℕ)
  | awaiting (target : WebhookTarget) (attempt : ℕ)
  | recording (target : WebhookTarget) (update : DeliveryUpdate) (backoff : Option ℕ)
  | backingOff (target : WebhookTarget) (attempt : ℕ)
deriving DecidableEq, Repr

inductive TaskInput where
  | lookup
  | guarded (ssrfError : Option String)
  | answered (result : FetchResult) (nowMs now : Int)
  | written
  | woken
deriving DecidableEq, Repr

/-- What is done when a wait is over: the next wait, if there is one, the attempt whose request is
sent, and the outcome that is written. -/
structure TaskMove where
  next : Option TaskPhase
  post : Option (WebhookTarget × ℕ)
  update : Option DeliveryUpdate
deriving DecidableEq, Repr

namespace WebhookService

def enterLoop (target : WebhookTarget) (attempt : ℕ) : TaskMove :=
  if attempt ≤ maxAttempts then ⟨some (.awaiting target attempt), some (target, attempt), none⟩
  else ⟨none, none, none⟩

end WebhookService

open WebhookService in
/-- The end of a wait; an input that does not belong to the wait has no effect to describe. -/
def TaskPhase.advance (env : WebhookEnv) (webhooks : WebhookTable) (tenantId : String) :
    TaskInput → TaskPhase → Option TaskMove
  | .lookup, .listed webhookId attempts =>
    match WebhookRepository.findById webhooks webhookId tenantId with
    | some webhook => some ⟨some (.guarding ⟨webhook.url, webhook.secret⟩ attempts), none, none⟩
    | none => some ⟨none, none, none⟩
  | .guarded ssrfError, .guarding target startAttempt =>
    match truthy ssrfError with
    | some ssrfError =>
      let update := .markFailed (startAttempt + 1) ("SSRF policy: " ++ ssrfError) none none
      some ⟨some (.recording target update none), none, none⟩
    | none => some (enterLoop target (startAttempt + 1))
  | .answered result nowMs now, .awaiting target attempt =>
    let (update, returns) := settleAttempt env attempt result nowMs now
    let backoff := if returns then none else if attempt < maxAttempts then some attempt else none
    some ⟨some (.recording target update backoff), none, none⟩
  | .written, .recording target update backoff =>
    some ⟨backoff.map (.backingOff target), none, some update⟩
  | .woken, .backingOff target attempt => some (enterLoop target (attempt + 1))
  | _, _ => none

end AcdpControlPlane
