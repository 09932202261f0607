import AcdpControlPlane.Common.JsonRoundTrip
import AcdpControlPlane.Events.MemoryHub

/-!
# The stream hub of several instances

`RedisStreamHubStrategy` publishes an envelope to a shared channel. Each message that comes back is parsed
and offered to all local subscribers, which filter by the members of the envelope. The channel is taken
to deliver each message once and in order, so what is published takes effect when it is delivered.
-/

namespace AcdpControlPlane

open List

/-! ## What is published -/

/-- The members that are not `undefined`. -/
def definedMembers (members : List (String × Option Json)) : List (String × Json) :=
  members.filterMap fun member => member.2.map (member.1, ·)

theorem names_definedMembers (members : List (String × Option Json)) :
    ((definedMembers members).map Prod.fst).Sublist (members.map Prod.fst) := by
  induction members with
  | nil => exact Sublist.refl _
  | cons member members ih =>
    obtain ⟨name, _ | value⟩ := member
    · exact ih.cons name
    · exact ih.cons_cons name

theorem get_definedMembers {members : List (String × Option Json)}
    (hnm : (members.map Prod.fst).Nodup) (name : String) :
    Json.get (definedMembers members) name = (members.lookup name).join := by
  induction members with
  | nil => rfl
  | cons member members ih =>
    obtain ⟨first, value⟩ := member
    obtain ⟨hnew, hr⟩ := nodup_cons.mp hnm
    rw [lookup_cons]
    by_cases hn : name = first
    · subst hn
      cases value with
      | some value => simp [definedMembers, Json.get]
      | none =>
        -- the name does not occur again
        have hno : (definedMembers members).lookup name = none := by
          rw [lookup_eq_none_iff]
          intro member hm
          have hm' : member.1 ∈ members.map Prod.fst :=
            (names_definedMembers members).subset (mem_map_of_mem hm)
          rw [bne_iff_ne]
          exact fun hs => hnew (hs ▸ hm')
        simpa [definedMembers, Json.get] using hno
    · have hne : (name == first) = false := by simpa using hn
      rw [hne]
      cases value with
      | none => exact ih hr
      | some value =>
        have ht := ih hr
        unfold Json.get definedMembers at ht ⊢
        simp only [filterMap_cons, Option.map_some, lookup_cons, hne]
        exact ht

theorem numerals_definedMembers {number : String → JsNumber} {members : List (String × Option Json)}
    (h : ∀ member ∈ members, ∀ value ∈ member.2, value.Numerals number) :
    Json.NumeralsMembers number (definedMembers members) := by
  induction members with
  | nil => trivial
  | cons member members ih =>
    obtain ⟨hf, hr⟩ := forall_mem_cons.mp h
    obtain ⟨name, _ | value⟩ := member
    · exact ih hr
    · exact ⟨hf value rfl, ih hr⟩

theorem distinct_definedMembers {members : List (String × Option Json)}
    (h : ∀ member ∈ members, ∀ value ∈ member.2, value.Distinct) :
    Json.DistinctMembers (definedMembers members) := by
  induction members with
  | nil => trivial
  | cons member members ih =>
    obtain ⟨hf, hr⟩ := forall_mem_cons.mp h
    obtain ⟨name, _ | value⟩ := member
    · exact ih hr
    · exact ⟨hf value rfl, ih hr⟩

structure AcdpStreamEvent where
  type : String
  ts : String
  runId : Option String
  ctxId : Option String
  agentId : String
  contextType : Option String
  registryAuthority : String
  derivedFrom : List String
  keyFingerprint : Option String
  receiptPresent : Option Bool
  actor : Option String
  reason : Option String
  logId : Option String
deriving DecidableEq, Repr

namespace AcdpStreamEvent

def members (event : AcdpStreamEvent) : List (String × Option Json) :=
  [("type", some (.str event.type)),
    ("ts", some (.str event.ts)),
    ("runId", event.runId.map .str),
    ("ctxId", event.ctxId.map .str),
    ("agentId", some (.str event.agentId)),
    ("contextType", event.contextType.map .str),
    ("registryAuthority", some (.str event.registryAuthority)),
    ("derivedFrom", some (.arr (event.derivedFrom.map .str))),
    ("keyFingerprint", event.keyFingerprint.map .str),
    ("receiptPresent", event.receiptPresent.map .bool),
    ("actor", event.actor.map .str),
    ("reason", event.reason.map .str),
    ("logId", event.logId.map .str)]

def toJson (event : AcdpStreamEvent) : Json := .obj (definedMembers event.members)

theorem nodup_members (event : AcdpStreamEvent) : (event.members.map Prod.fst).Nodup := by
  simp [members]

theorem numerals_strings {number : String → JsNumber} (texts : List String) :
    Json.NumeralsElements number (texts.map .str) := by
  induction texts with
  | nil => trivial
  | cons text texts ih => exact ⟨trivial, ih⟩

theorem distinct_strings (texts : List String) : Json.DistinctElements (texts.map .str) := by
  induction texts with
  | nil => trivial
  | cons text texts ih => exact ⟨trivial, ih⟩

theorem numerals_toJson (number : String → JsNumber) (event : AcdpStreamEvent) :
    event.toJson.Numerals number := by
  apply numerals_definedMembers
  cases hr : event.receiptPresent <;> simp [members, hr, Json.Numerals, numerals_strings]

theorem distinct_toJson (event : AcdpStreamEvent) : event.toJson.Distinct := by
  refine ⟨(names_definedMembers event.members).nodup event.nodup_members, ?_⟩
  apply distinct_definedMembers
  cases hr : event.receiptPresent <;> simp [members, hr, Json.Distinct, distinct_strings]

theorem toJson_injective : Function.Injective toJson := by
  intro event event' h
  have hm : ∀ name, (event.members.lookup name).join = (event'.members.lookup name).join := by
    intro name
    rw [← get_definedMembers event.nodup_members, ← get_definedMembers event'.nodup_members,
      Json.obj.inj h]
  have hs : Function.Injective Json.str := fun _ _ => Json.str.inj
  have hb : Function.Injective Json.bool := fun _ _ => Json.bool.inj
  have ht := hm "type"
  have hts := hm "ts"
  have hru := hm "runId"
  have hci := hm "ctxId"
  have ha := hm "agentId"
  have hc := hm "contextType"
  have hr := hm "registryAuthority"
  have hd := hm "derivedFrom"
  have hk := hm "keyFingerprint"
  have hre := hm "receiptPresent"
  have hac := hm "actor"
  have hrs := hm "reason"
  have hl := hm "logId"
  cases event
  cases event'
  simp [members, lookup, (Option.map_injective hs).eq_iff,
    (Option.map_injective hb).eq_iff, (map_injective_iff.mpr hs).eq_iff] at *
  simp [*]

end AcdpStreamEvent

def Feed.envelope (event : AcdpStreamEvent) : Feed → List (String × Json)
  | .run tenantId runId =>
    [("scope", .str "run"), ("runId", .str runId), ("tenantId", .str tenantId),
      ("event", event.toJson)]
  | .global tenantId =>
    [("scope", .str "global"), ("tenantId", .str tenantId), ("event", event.toJson)]

/-- The filters of `streamRun` and `streamGlobal`. -/
def Feed.selects (msg : List (String × Json)) : Feed → Bool
  | .run tenantId runId =>
    Json.strOf (Json.get msg "scope") = some "run" &&
      Json.strOf (Json.get msg "runId") = some runId &&
      Json.strOf (Json.get msg "tenantId") = some tenantId
  | .global tenantId =>
    Json.strOf (Json.get msg "scope") = some "global" &&
      Json.strOf (Json.get msg "tenantId") = some tenantId

theorem Feed.selects_envelope (feed feed' : Feed) (event : AcdpStreamEvent) :
    feed.selects (feed'.envelope event) = true ↔ feed = feed' := by
  cases feed with
  | run tenantId runId =>
    cases feed' with
    | run tenantId' runId' =>
      simp only [selects, envelope, Json.get, Json.strOf, lookup]
      constructor
      · intro h
        simp at h
        rw [h.1, h.2]
      · rintro ⟨⟩
        simp
    | global tenantId' => simp [selects, envelope, Json.get, Json.strOf, lookup]
  | global tenantId =>
    cases feed' with
    | run tenantId' runId' => simp [selects, envelope, Json.get, Json.strOf, lookup]
    | global tenantId' => simp [selects, envelope, Json.get, Json.strOf, lookup, eq_comm]

theorem Feed.get_event_envelope (feed : Feed) (event : AcdpStreamEvent) :
    Json.get (feed.envelope event) "event" = some event.toJson := by
  cases feed <;> simp [envelope, Json.get, lookup]

theorem Feed.parseJson_envelope (number : String → JsNumber) (feed : Feed) (event : AcdpStreamEvent) :
    parseJson number (Json.stringify (.obj (feed.envelope event))) =
      some (.obj (feed.envelope event)) := by
  apply parseJson_stringify
  · cases feed <;>
      simp [envelope, Json.Numerals, Json.NumeralsMembers, event.numerals_toJson number]
  · cases feed <;> simp [envelope, Json.Distinct, Json.DistinctMembers, event.distinct_toJson]

/-! ## The hub -/

/-- The messages in the channel, the feeds of the observables and of the subscriptions, and what has been
received: `msg.event`, which is `undefined` for a message without it. -/
structure RedisHub where
  channel : List String
  observables : ℕ → Option Feed
  subscriptions : ℕ → Option Feed
  received : ℕ → List (Option Json)

inductive RedisOp where
  | client (op : ClientOp AcdpStreamEvent)
  | deliver

namespace RedisHub

def initial : RedisHub := ⟨[], fun _ => none, fun _ => none, fun _ => []⟩

def client (hub : RedisHub) : ClientOp AcdpStreamEvent → RedisHub
  | .publish feed event =>
    -- nothing is emitted locally, the message comes back
    { hub with channel := hub.channel ++ [Json.stringify (.obj (feed.envelope event))] }
  | .open call feed =>
    if hub.observables call = none then
      { hub with observables := Function.update hub.observables call (some feed) }
    else hub
  | .subscribe id call =>
    match hub.subscriptions id, hub.observables call with
    | none, some feed => { hub with subscriptions := Function.update hub.subscriptions id (some feed) }
    | _, _ => hub
  | .unsubscribe id => { hub with subscriptions := Function.update hub.subscriptions id none }

/-- `localSubject.next(parsed)`. -/
def emit (hub : RedisHub) (msg : List (String × Json)) : RedisHub :=
  { hub with
    received := fun id =>
      match hub.subscriptions id with
      | some feed =>
        if feed.selects msg then hub.received id ++ [Json.get msg "event"] else hub.received id
      | none => hub.received id }

/-- The message handler. What cannot be parsed is logged; only envelopes are published. -/
def onMessage (number : String → JsNumber) (hub : RedisHub) (message : String) : RedisHub :=
  match parseJson number message with
  | some (.obj msg) => hub.emit msg
  | _ => hub

def step (number : String → JsNumber) (hub : RedisHub) : RedisOp → RedisHub
  | .client op => hub.client op
  | .deliver =>
    match hub.channel with
    | [] => hub
    | message :: channel => onMessage number { hub with channel := channel } message

def run (number : String → JsNumber) (ops : List RedisOp) : RedisHub :=
  ops.foldl (step number) initial

end RedisHub

/-- What the clients do, with publications where they are delivered. The first argument is what has been
published and is still in the channel. -/
def linearize : List (Feed × AcdpStreamEvent) → List RedisOp → List (ClientOp AcdpStreamEvent)
  | _, [] => []
  | queue, .client (.publish feed event) :: ops => linearize (queue ++ [(feed, event)]) ops
  | queue, .client (.open call feed) :: ops => .open call feed :: linearize queue ops
  | queue, .client (.subscribe id call) :: ops => .subscribe id call :: linearize queue ops
  | queue, .client (.unsubscribe id) :: ops => .unsubscribe id :: linearize queue ops
  | [], .deliver :: ops => linearize [] ops
  | (feed, event) :: queue, .deliver :: ops => .publish feed event :: linearize queue ops

namespace RedisHub

def passed (event : AcdpStreamEvent) : Option Json := some event.toJson

/-- The hub serves what the broadcaster serves, and the channel holds what is still to come. -/
structure Simulates (queue : List (Feed × AcdpStreamEvent)) (hub : RedisHub)
    (abstract : PubSub.State Feed AcdpStreamEvent ℕ) : Prop where
  channel : hub.channel = queue.map fun (feed, event) => Json.stringify (.obj (feed.envelope event))
  observables : hub.observables = abstract.calls
  subscriptions : hub.subscriptions = abstract.subscribed
  received : ∀ id, hub.received id = (abstract.received id).map passed

variable {queue : List (Feed × AcdpStreamEvent)} {hub : RedisHub}
  {abstract : PubSub.State Feed AcdpStreamEvent ℕ}

theorem Simulates.client (h : Simulates queue hub abstract) (op : ClientOp AcdpStreamEvent)
    (ho : ∀ feed event, op ≠ .publish feed event) :
    Simulates queue (hub.client op) (PubSub.step abstract op) := by
  cases op with
  | publish feed event => exact absurd rfl (ho feed event)
  | «open» call feed =>
    simp only [RedisHub.client, PubSub.step, h.observables]
    split
    · exact ⟨h.channel, rfl, h.subscriptions, h.received⟩
    · exact h
  | subscribe id call =>
    simp only [RedisHub.client, PubSub.step, h.observables, h.subscriptions]
    cases hi : abstract.subscribed id with
    | some feed => exact h
    | none =>
      cases hc : abstract.calls call with
      | none => exact h
      | some feed => exact ⟨h.channel, rfl, rfl, h.received⟩
  | unsubscribe id =>
    simp only [RedisHub.client, PubSub.step, h.subscriptions]
    exact ⟨h.channel, h.observables, rfl, h.received⟩

theorem Simulates.deliver {number : String → JsNumber} {feed : Feed} {event : AcdpStreamEvent}
    (h : Simulates ((feed, event) :: queue) hub abstract) :
    Simulates queue (hub.step number .deliver) (PubSub.step abstract (.publish feed event)) := by
  have hc := h.channel
  rw [map_cons] at hc
  simp only [RedisHub.step, hc, onMessage, feed.parseJson_envelope number event]
  refine ⟨rfl, h.observables, h.subscriptions, fun id => ?_⟩
  simp only [emit, PubSub.step, h.subscriptions, feed.get_event_envelope event]
  cases hi : abstract.subscribed id with
  | none => simp [h.received]
  | some feed' =>
    by_cases hf : feed' = feed
    · subst hf
      simp [(Feed.selects_envelope feed' feed' event).mpr rfl, h.received, passed]
    · have ho : feed'.selects (feed.envelope event) = false := by
        rw [Bool.eq_false_iff]
        exact mt (Feed.selects_envelope feed' feed event).mp hf
      simp [ho, hf, h.received]

theorem Simulates.foldl {number : String → JsNumber} (ops : List RedisOp)
    (h : Simulates queue hub abstract) (id : ℕ) :
    (ops.foldl (step number) hub).received id =
      (((linearize queue ops).foldl PubSub.step abstract).received id).map passed := by
  induction ops generalizing queue hub abstract with
  | nil =>
    exact h.received id
  | cons op ops ih =>
    match op with
    | .client (.publish feed event) =>
      refine ih ⟨?_, h.observables, h.subscriptions, h.received⟩
      simp [RedisHub.step, RedisHub.client, h.channel]
    | .client (.open call feed) => exact ih (h.client (.open call feed) (by simp))
    | .client (.subscribe id' call) => exact ih (h.client (.subscribe id' call) (by simp))
    | .client (.unsubscribe id') => exact ih (h.client (.unsubscribe id') (by simp))
    | .deliver =>
      match queue with
      | [] =>
        refine ih ?_
        have hem : hub.step number .deliver = hub := by simp [RedisHub.step, h.channel]
        rw [hem]
        exact h
      | (feed, event) :: queue => exact ih h.deliver

theorem received_run (number : String → JsNumber) (ops : List RedisOp) (id : ℕ) :
    (run number ops).received id = ((PubSub.run (linearize [] ops)).received id).map passed :=
  Simulates.foldl ops ⟨rfl, rfl, rfl, fun _ => rfl⟩ id

end RedisHub

/-! ## The two strategies -/

/-- The clients do the same, and each message is delivered at once. -/
def promptly (ops : List (ClientOp AcdpStreamEvent)) : List RedisOp :=
  ops.flatMap fun op => [.client op, .deliver]

@[simp] theorem linearize_promptly (ops : List (ClientOp AcdpStreamEvent)) :
    linearize [] (promptly ops) = ops := by
  induction ops with
  | nil => rfl
  | cons op ops ih =>
    have hc : promptly (op :: ops) = .client op :: .deliver :: promptly ops := rfl
    rw [hc]
    cases op <;> simp [linearize, ih]

/-- **The streams of the two strategies.** Behind Redis a subscriber receives what is published to its feed
while it is subscribed, however messages are delayed. In memory, where the observables of runs have one
subscription each, it does so exactly if the joined keys keep apart what is published from what it follows;
and then it receives the same sequence from both. -/
theorem hubs_agree_iff (number : String → JsNumber) :
    (∀ ops id, (RedisHub.run number ops).received id =
      ((PubSub.run (linearize [] ops)).received id).map RedisHub.passed) ∧
    ∀ ops : List (MemoryOp AcdpStreamEvent), SubscribedOnce (MemoryOp.clients ops) → ∀ id,
      ((MemoryHub.run ops).received id = (PubSub.run (MemoryOp.clients ops)).received id ↔
        PubSub.Separate Feed.key (MemoryOp.clients ops) id) ∧
      ∀ redisOps, linearize [] redisOps = MemoryOp.clients ops →
        ((RedisHub.run number redisOps).received id =
            ((MemoryHub.run ops).received id).map RedisHub.passed ↔
          PubSub.Separate Feed.key (MemoryOp.clients ops) id) := by
  refine ⟨RedisHub.received_run number, fun ops ho id => ?_⟩
  have hm : (MemoryHub.run ops).received id =
      (PubSub.run (MemoryOp.clients ops)).received id ↔
        PubSub.Separate Feed.key (MemoryOp.clients ops) id := by
    rw [MemoryHub.received_run ho]
    exact PubSub.received_rename_iff
  refine ⟨hm, fun redisOps hs => ?_⟩
  have hp : Function.Injective RedisHub.passed := by
    intro event event' h
    exact AcdpStreamEvent.toJson_injective (Option.some.inj h)
  rw [RedisHub.received_run, hs, (map_injective_iff.mpr hp).eq_iff, eq_comm, hm]

def sampleStreamEvent : AcdpStreamEvent where
  type := "context_published"
  ts := "2026-01-01T00:00:00.000Z"
  runId := some "c"
  ctxId := none
  agentId := "did:web:agent.example"
  contextType := none
  registryAuthority := "registry.example"
  derivedFrom := []
  keyFingerprint := none
  receiptPresent := some true
  actor := none
  reason := none
  logId := none

def followedRun (follower publisher : Feed) : List (ClientOp AcdpStreamEvent) :=
  [.open 0 follower, .subscribe 0 0, .publish publisher sampleStreamEvent]

theorem hubs_agree_iff_followed :
    let clients := followedRun (.run "acme" "c") (.run "acme" "c")
    SubscribedOnce (MemoryOp.clients (clients.map .client)) ∧
      linearize [] (promptly clients) = MemoryOp.clients (clients.map .client) ∧
      ((RedisHub.run (fun text => ⟨none, text⟩) (promptly clients)).received 0 =
          ((MemoryHub.run (clients.map .client)).received 0).map RedisHub.passed ↔
        PubSub.Separate Feed.key (MemoryOp.clients (clients.map .client)) 0) := by
  intro clients
  have ho : SubscribedOnce (MemoryOp.clients (clients.map .client)) :=
    subscribedOnce_of_nodup (by decide)
  have hs : linearize [] (promptly clients) = MemoryOp.clients (clients.map .client) :=
    linearize_promptly clients
  exact ⟨ho, hs, ((hubs_agree_iff fun text => ⟨none, text⟩).2 _ ho 0).2 _ hs⟩

/-- An observable is subscribed to again after its first subscriber has left. -/
def resubscribed : List (MemoryOp AcdpStreamEvent) :=
  [.client (.open 0 (.run "a" "c")), .client (.subscribe 0 0), .client (.unsubscribe 0),
    .client (.subscribe 1 0), .cleanup "a:c", .client (.publish (.run "a" "c") sampleStreamEvent)]

/-- A subscriber of the run `b:c` of tenant `a` receives an event of the run `c` of tenant `a:b`. And a
second subscriber of an observable loses what is published after the cleanup. -/
theorem hubs_disagree :
    ((MemoryHub.run ((followedRun (.run "a" "b:c") (.run "a:b" "c")).map .client)).received 0 =
        [sampleStreamEvent] ∧
      (PubSub.run (followedRun (.run "a" "b:c") (.run "a:b" "c"))).received 0 = [] ∧
      (RedisHub.run (fun text => ⟨none, text⟩)
        (promptly (followedRun (.run "a" "b:c") (.run "a:b" "c")))).received 0 = []) ∧
    (MemoryHub.run resubscribed).received 1 = [] ∧
      (PubSub.run (MemoryOp.clients resubscribed)).received 1 = [sampleStreamEvent] := by
  refine ⟨⟨by decide, by decide, ?_⟩, by decide, by decide⟩
  rw [RedisHub.received_run, linearize_promptly]
  rfl

end AcdpControlPlane
