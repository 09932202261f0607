import AcdpControlPlane.Common.JsonText
import AcdpControlPlane.Common.Throwing

/-!
# The JWKS client

`JwksClient` (`src/auth/jwks-client.ts`) keeps the keys of a trusted issuer for five minutes and an error
for half a minute. A call that finds neither joins the fetch that is in flight, or starts one. The end of a
fetch is three microtasks: the response is parsed, its outcome is noted, and the slot of the fetch is
cleared. Calls may come between any two of them, and the clock may move.
-/

namespace AcdpControlPlane.Jwks

open List

/-! ## Reading a response -/

/-- The keys of a JWKS, each under its `kid`, in the order they were seen. -/
structure CacheEntry where
  fetchedAt : Int
  keys : List (Json × String)

structure JwksResponse where
  status : ℕ
  declared : Option ℕ
  body : List UInt8

structure JwksEnv where
  url : String
  decode : List UInt8 → String
  number : String → JsNumber
  toPem : String → Option String

def MAX_JWKS_BYTES : ℕ := 64 * 1024

/-- The loop over the keys. An `x` that is not a text is falsy, or is thrown on and skipped. -/
def parseKeys (env : JwksEnv) : List Json → List (Json × String) → Except JsError (List (Json × String))
  | [], seen => .ok seen
  | .null :: _, _ => .error ⟨"Cannot read properties of null (reading 'kty')"⟩
  | k :: ks, seen =>
    let pem :=
      if Json.strOf (k.member "kty") = some "OKP" ∧ Json.strOf (k.member "crv") = some "Ed25519" then
        (truthy (Json.strOf (k.member "x"))).bind env.toPem
      else none
    match pem with
    | none => parseKeys env ks seen
    | some pem =>
      let kid :=
        match k.member "kid" with
        | none | some .null => .str ("__unkeyed_" ++ toString seen.length)
        | some kid => kid
      parseKeys env ks (seen ++ [(kid, pem)])

/-- What `fetchAndParse` does before it reads the clock. `outcome` is that of `fetchImpl` and of reading
the body. -/
def readKeys (env : JwksEnv) (outcome : Except JsError JwksResponse) :
    Except JsError (List (Json × String)) := do
  if !startsWith env.url.toLower "https://" then throw ⟨"JWKS url " ++ env.url ++ " must be https"⟩
  let resp ← outcome
  if 300 ≤ resp.status ∧ resp.status < 400 then
    throw ⟨"JWKS fetch " ++ env.url ++ " returned a redirect (refused)"⟩
  if ¬ (200 ≤ resp.status ∧ resp.status ≤ 299) then
    throw ⟨"JWKS fetch " ++ env.url ++ " returned HTTP " ++ toString resp.status⟩
  let tooLarge : JsError :=
    ⟨"JWKS at " ++ env.url ++ " exceeds " ++ toString MAX_JWKS_BYTES ++ "-byte cap"⟩
  if resp.declared.any (MAX_JWKS_BYTES < ·) then throw tooLarge
  if MAX_JWKS_BYTES < resp.body.length then throw tooLarge
  match parseJson env.number (env.decode resp.body) with
  | none => throw ⟨"JWKS at " ++ env.url ++ " is not valid JSON"⟩
  | some json =>
    match json.member "keys" with
    | some (.arr keys) => parseKeys env keys []
    | _ => throw ⟨"JWKS at " ++ env.url ++ " is malformed (no keys array)"⟩

def fetchAndParse (env : JwksEnv) (outcome : Except JsError JwksResponse) (now : Int) :
    Except JsError CacheEntry :=
  (readKeys env outcome).map (⟨now, ·⟩)

/-- Whether two members `kid` are the same key of a `Map`, if they are not the same object. -/
def sameKid : Json → Json → Bool
  | .str s, .str s' => s = s'
  | .num n, .num n' => n = n'
  | .bool b, .bool b' => b = b'
  | _, _ => false

/-- `byKid.get(kid)`: a later key replaces an earlier one. -/
def CacheEntry.get (entry : CacheEntry) (kid : Json) : Option String :=
  (entry.keys.reverse.find? (sameKid kid ·.1)).map Prod.snd

/-- The key for a `kid`, or the first one. -/
def CacheEntry.select (url : String) (entry : CacheEntry) (kid : Option String) : Except JsError String :=
  match (truthy kid).bind (entry.get <| .str ·) with
  | some hit => .ok hit
  | none =>
    match entry.keys with
    | [] => .error ⟨"JWKS at " ++ url ++ " returned no usable keys"⟩
    | (first, pem) :: _ => .ok ((entry.get first).getD pem)

theorem CacheEntry.mem_of_get {entry : CacheEntry} {kid : Json} {pem : String}
    (h : entry.get kid = some pem) : pem ∈ entry.keys.map Prod.snd := by
  obtain ⟨key, hk, rfl⟩ := Option.map_eq_some_iff.mp h
  exact mem_map_of_mem (mem_reverse.mp (mem_of_find?_eq_some hk))

theorem CacheEntry.mem_of_select {url : String} {entry : CacheEntry} {kid : Option String} {pem : String}
    (h : entry.select url kid = .ok pem) : pem ∈ entry.keys.map Prod.snd := by
  unfold select at h
  split at h
  · next hi hh =>
    cases h
    obtain ⟨kid', -, hg⟩ := Option.bind_eq_some_iff.mp hh
    exact mem_of_get hg
  · split at h
    · cases h
    · next first pem' rest hk =>
      cases h
      cases hg : entry.get first with
      | some hi => exact mem_of_get hg
      | none => simp [hk]

/-! ## Calls and fetches -/

def SUCCESS_TTL_MS : Int := 5 * 60000

def ERROR_TTL_MS : Int := 30000

structure KeyCall where
  calledAt : Int
  kid : Option String

inductive Stage where
  | fetching
  | settled (result : Except JsError CacheEntry)
  | noted (result : Except JsError CacheEntry)

/-- A fetch with a microtask to run, and the calls that wait for its promise. -/
structure Chain where
  id : ℕ
  startedAt : Int
  stage : Stage
  waiters : List KeyCall

structure Fetched where
  startedAt : Int
  settledAt : Int
  result : Except JsError CacheEntry

def Fetched.quietUntil (p : Fetched) : Int :=
  p.settledAt +
    match p.result with
    | .ok _ => SUCCESS_TTL_MS
    | .error _ => ERROR_TTL_MS

inductive Origin where
  | cached (entry : CacheEntry)
  | failed (err : JsError)
  | awaited (result : Except JsError CacheEntry)

def Origin.result : Origin → Except JsError CacheEntry
  | .cached entry => .ok entry
  | .failed err => .error err
  | .awaited result => result

structure JwksClient where
  cache : Option CacheEntry
  inflight : Option ℕ
  lastError : Option (JsError × Int)
  chains : List Chain
  nextId : ℕ
  past : List Fetched
  calls : ℕ
  answers : List (KeyCall × Origin)
  clock : Int

inductive JwksEvent where
  | getSigningKey (kid : Option String)
  | settle (chain : ℕ) (outcome : Except JsError JwksResponse)
  | note (chain : ℕ)
  | finish (chain : ℕ)

def outcome (env : JwksEnv) (answer : KeyCall × Origin) : Except JsError String := do
  let entry ← answer.2.result
  entry.select env.url answer.1.kid

namespace JwksClient

def initial (clock : Int) : JwksClient := ⟨none, none, none, [], 0, [], 0, [], clock⟩

/-- What a call finds before it looks at the slot. -/
def lookup (s : JwksClient) (now : Int) : Option Origin :=
  match s.cache.filter (now - ·.fetchedAt < SUCCESS_TTL_MS) with
  | some entry => some (.cached entry)
  | none => (s.lastError.filter (now - ·.2 < ERROR_TTL_MS)).map (.failed ·.1)

/-- A call is answered, joins the fetch in the slot, or starts one. -/
def getSigningKey (s : JwksClient) (call : KeyCall) : JwksClient :=
  match s.lookup call.calledAt, s.inflight with
  | some origin, _ => { s with calls := s.calls + 1, answers := (call, origin) :: s.answers }
  | none, some id =>
    { s with
      calls := s.calls + 1
      chains := s.chains.map fun c => if c.id = id then { c with waiters := call :: c.waiters } else c }
  | none, none =>
    { s with
      inflight := some s.nextId
      chains := ⟨s.nextId, call.calledAt, .fetching, [call]⟩ :: s.chains
      nextId := s.nextId + 1
      calls := s.calls + 1 }

/-- What `then` or `catch` does with an outcome. -/
def noteResult (s : JwksClient) (result : Except JsError CacheEntry) : JwksClient :=
  match result with
  | .ok entry => { s with cache := some entry, lastError := none }
  | .error err => { s with lastError := some (err, s.clock) }

@[simp] theorem chains_noteResult (s : JwksClient) (result : Except JsError CacheEntry) :
    (s.noteResult result).chains = s.chains := by
  cases result <;> rfl

@[simp] theorem past_noteResult (s : JwksClient) (result : Except JsError CacheEntry) :
    (s.noteResult result).past = s.past := by
  cases result <;> rfl

/-- One microtask of a fetch. After the last one its promise settles for those who wait. -/
def advance (env : JwksEnv) (s : JwksClient) (i : ℕ) (c : Chain) : JwksEvent → JwksClient
  | .settle _ outcome =>
    match c.stage with
    | .fetching =>
      let result := fetchAndParse env outcome s.clock
      { s with
        chains := s.chains.set i { c with stage := .settled result }
        past := ⟨c.startedAt, s.clock, result⟩ :: s.past }
    | _ => s
  | .note _ =>
    match c.stage with
    | .settled result =>
      noteResult { s with chains := s.chains.set i { c with stage := .noted result } } result
    | _ => s
  | .finish _ =>
    match c.stage with
    | .noted result =>
      { s with
        inflight := none
        chains := s.chains.eraseIdx i
        answers := c.waiters.map (·, .awaited result) ++ s.answers }
    | _ => s
  | .getSigningKey _ => s

/-- An event that cannot happen does not. The clock does not go back. -/
def step (env : JwksEnv) (s : JwksClient) (event : JwksEvent × Int) : JwksClient :=
  let s := { s with clock := max s.clock event.2 }
  match event.1 with
  | .getSigningKey kid => s.getSigningKey ⟨s.clock, kid⟩
  | .settle i _ | .note i | .finish i =>
    match s.chains[i]? with
    | some c => s.advance env i c event.1
    | none => s

def run (env : JwksEnv) (clock : Int) (events : List (JwksEvent × Int)) : JwksClient :=
  events.foldl (step env) (initial clock)

end JwksClient

/-! ## The invariant -/

/-- An answer comes from a fetch, and from a recent one if the call did not wait for it. -/
def Justified (past : List Fetched) (answer : KeyCall × Origin) : Prop :=
  match answer.2 with
  | .cached entry =>
    ∃ p ∈ past, p.result = .ok entry ∧ answer.1.calledAt - p.settledAt < SUCCESS_TTL_MS
  | .failed _ => True
  | .awaited result => ∃ p ∈ past, p.result = result

/-- An outcome is what calls find, until it expires. -/
def Remembered (s : JwksClient) (p : Fetched) : Prop :=
  match p.result with
  | .ok e => e ∈ s.cache ∧ e.fetchedAt = p.settledAt
  | .error _ => ∃ x ∈ s.lastError, p.settledAt ≤ x.2

def Chain.Sound (s : JwksClient) (c : Chain) : Prop :=
  match c.stage with
  | .fetching => c.startedAt ≤ s.clock ∧ ∀ p ∈ s.past, p.quietUntil ≤ c.startedAt
  | .settled result => ∃ p ∈ s.past.head?, p.result = result ∧ p.settledAt ≤ s.clock ∧
      ∀ e, result = .ok e → e.fetchedAt = p.settledAt
  | .noted result => ∃ p ∈ s.past.head?, p.result = result ∧ Remembered s p

structure Sound (s : JwksClient) : Prop where
  slot : (s.chains = [] ∧ s.inflight = none ∧ ∀ p ∈ s.past.head?, Remembered s p) ∨
    ∃ c, s.chains = [c] ∧ s.inflight = some c.id ∧ c.Sound s
  apart : s.past.Pairwise fun p q => q.quietUntil ≤ p.startedAt
  times : ∀ p ∈ s.past, p.startedAt ≤ p.settledAt
  kept : ∀ e ∈ s.cache, ∃ p ∈ s.past, p.result = .ok e ∧ p.settledAt = e.fetchedAt
  answers : ∀ answer ∈ s.answers, Justified s.past answer
  calls : s.answers.length + (s.chains.flatMap (·.waiters)).length = s.calls

section Steps

variable {env : JwksEnv} {s : JwksClient} {now : Int} {c : Chain} {p : Fetched}

theorem Fetched.settledAt_le (p : Fetched) : p.settledAt ≤ p.quietUntil := by
  unfold quietUntil SUCCESS_TTL_MS ERROR_TTL_MS
  split <;> omega

theorem Sound.quietUntil_le (h : Sound s) (hh : ∀ q ∈ s.past.head?, Remembered s q) (hl : s.lookup now = none) (hp : p ∈ s.past) :
    p.quietUntil ≤ now := by
  have hca : s.cache.filter (now - ·.fetchedAt < SUCCESS_TTL_MS) = none := by
    unfold JwksClient.lookup at hl
    split at hl
    · cases hl
    · next hc => exact hc
  rw [JwksClient.lookup, hca] at hl
  have hla : ∀ q ∈ s.past.head?, q.quietUntil ≤ now := by
    intro q hq
    have hr := hh q hq
    unfold Remembered at hr
    unfold Fetched.quietUntil
    split at hr
    · next e hres =>
      have := Option.filter_eq_none_iff.mp hca e hr.1
      rw [decide_eq_true_eq] at this
      omega
    · next err hres =>
      obtain ⟨x, hx, hle⟩ := hr
      have := Option.filter_eq_none_iff.mp (Option.map_eq_none_iff.mp hl) x hx
      rw [decide_eq_true_eq] at this
      omega
  -- an earlier outcome had expired before the last fetch started
  cases hpa : s.past with
  | nil =>
    rw [hpa] at hp
    cases hp
  | cons q rest =>
    have hq := hla q (by rw [hpa]; rfl)
    rw [hpa] at hp
    rcases mem_cons.mp hp with rfl | hre
    · exact hq
    · have ha := h.apart
      rw [hpa] at ha
      have := (pairwise_cons.mp ha).1 p hre
      have := h.times q (by rw [hpa]; exact mem_cons_self ..)
      have := q.settledAt_le
      omega

theorem Sound.tick (h : Sound s) (hl : s.clock ≤ now) : Sound { s with clock := now } := by
  refine ⟨h.slot.imp_right ?_, h.apart, h.times, h.kept, h.answers, h.calls⟩
  rintro ⟨c, ho, hi, hc⟩
  refine ⟨c, ho, hi, ?_⟩
  unfold Chain.Sound at hc ⊢
  cases hs : c.stage <;> rw [hs] at hc
  · exact ⟨hc.1.trans hl, hc.2⟩
  · obtain ⟨p, hp, hr, hn, ha⟩ := hc
    exact ⟨p, hp, hr, hn.trans hl, ha⟩
  · exact hc

theorem Sound.getSigningKey (h : Sound s) (kid : Option String) :
    Sound (s.getSigningKey ⟨s.clock, kid⟩) := by
  have hca := h.calls
  unfold JwksClient.getSigningKey
  split
  · next origin hl =>
    refine ⟨h.slot, h.apart, h.times, h.kept, forall_mem_cons.mpr ⟨?_, h.answers⟩, ?_⟩
    · cases origin with
      | cached e =>
        obtain ⟨he, hf⟩ : e ∈ s.cache ∧ s.clock - e.fetchedAt < SUCCESS_TTL_MS := by
          unfold JwksClient.lookup at hl
          split at hl
          · next hc =>
            cases hl
            simpa using Option.filter_eq_some_iff.mp hc
          · simp at hl
        obtain ⟨p, hp, hr, ha⟩ := h.kept e he
        exact ⟨p, hp, hr, by rw [ha]; exact hf⟩
      | failed err => trivial
      | awaited result =>
        unfold JwksClient.lookup at hl
        split at hl <;> simp at hl
    · simp only [length_cons]
      omega
  · next id hl hi =>
    -- the chain in the slot gets one more waiter
    obtain ⟨c, ho, hc, hs⟩ := h.slot.resolve_left fun hid => nomatch hi.symm.trans hid.2.1
    obtain rfl := Option.some.inj (hi.symm.trans hc)
    rw [ho] at hca
    rw [ho, map_singleton, if_pos rfl]
    refine ⟨.inr ⟨_, rfl, hc, hs⟩, h.apart, h.times, h.kept, h.answers, ?_⟩
    simp only [flatMap_singleton, length_cons] at hca ⊢
    omega
  · next hl hi =>
    obtain ⟨hn, -, hh⟩ := h.slot.resolve_right fun ⟨_, _, hc, _⟩ => nomatch hi.symm.trans hc
    rw [hn] at hca
    rw [hn]
    refine ⟨.inr ⟨_, rfl, rfl, le_rfl, fun p => h.quietUntil_le hh hl⟩,
      h.apart, h.times, h.kept, h.answers, ?_⟩
    simpa using hca

theorem Justified.mono {answer : KeyCall × Origin} (h : Justified s.past answer) :
    Justified (p :: s.past) answer := by
  unfold Justified at h ⊢
  split <;> simp_all

theorem Sound.settle {outcome : Except JsError JwksResponse} (h : Sound s) (hi : s.inflight = some c.id)
    (ho : s.chains = [c]) (hl : c.startedAt ≤ s.clock) (hq : ∀ p ∈ s.past, p.quietUntil ≤ c.startedAt) :
    let result := fetchAndParse env outcome s.clock
    Sound { s with
      chains := [{ c with stage := .settled result }]
      past := ⟨c.startedAt, s.clock, result⟩ :: s.past } := by
  refine ⟨.inr ⟨_, rfl, hi, _, rfl, rfl, le_rfl, fun e he => ?_⟩, pairwise_cons.mpr ⟨hq, h.apart⟩,
    forall_mem_cons.mpr ⟨hl, h.times⟩, fun e he => ?_, fun answer hm => (h.answers answer hm).mono, ?_⟩
  · obtain ⟨keys, -, rfl⟩ := Throwing.map_eq_ok.mp he
    rfl
  · obtain ⟨p, hp, hr⟩ := h.kept e he
    exact ⟨p, mem_cons_of_mem _ hp, hr⟩
  · have hc := h.calls
    rw [ho] at hc
    exact hc

theorem Sound.note {result : Except JsError CacheEntry} (h : Sound s) (hi : s.inflight = some c.id)
    (ho : s.chains = [c]) (hp : p ∈ s.past.head?) (hr : p.result = result) (hn : p.settledAt ≤ s.clock)
    (ha : ∀ e, result = .ok e → e.fetchedAt = p.settledAt) :
    Sound (JwksClient.noteResult { s with chains := [{ c with stage := .noted result }] } result) := by
  have hc := h.calls
  rw [ho] at hc
  cases result with
  | ok e =>
    refine ⟨.inr ⟨_, rfl, hi, p, hp, hr, ?_⟩, h.apart, h.times, ?_, h.answers, hc⟩
    · simp only [Remembered, hr]
      exact ⟨rfl, ha e rfl⟩
    · rintro _ ⟨⟩
      exact ⟨p, mem_of_mem_head? hp, hr, (ha e rfl).symm⟩
  | error err =>
    refine ⟨.inr ⟨_, rfl, hi, p, hp, hr, ?_⟩, h.apart, h.times, h.kept, h.answers, hc⟩
    simp only [Remembered, hr]
    exact ⟨_, rfl, hn⟩

theorem Sound.finish {result : Except JsError CacheEntry} (h : Sound s) (ho : s.chains = [c])
    (hp : p ∈ s.past.head?) (hre : p.result = result) (hr : Remembered s p) :
    Sound { s with
      inflight := none, chains := [], answers := c.waiters.map (·, .awaited result) ++ s.answers } := by
  refine ⟨.inl ⟨rfl, rfl, fun q hq => ?_⟩, h.apart, h.times, h.kept,
    forall_mem_append.mpr ⟨forall_mem_map.mpr fun call _ => ?_, h.answers⟩, ?_⟩
  · obtain rfl := Option.some.inj (Eq.trans hp.symm hq)
    exact hr
  · exact ⟨p, mem_of_mem_head? hp, hre⟩
  · have hc := h.calls
    rw [ho] at hc
    simp only [flatMap_singleton, length_append, length_map, flatMap_nil,
      length_nil] at hc ⊢
    omega

theorem Sound.advance {event : JwksEvent} (h : Sound s) (ho : s.chains = [c])
    (hi : s.inflight = some c.id) (hc : c.Sound s) : Sound (s.advance env 0 c event) := by
  unfold Chain.Sound at hc
  cases event <;> unfold JwksClient.advance <;> dsimp only
  case getSigningKey => exact h
  all_goals
    split
    case h_2 => exact h
    case h_1 hs =>
      rw [hs] at hc
      rw [ho]
      first
      | exact h.settle hi ho hc.1 hc.2
      | obtain ⟨p, hp, hr, hn, ha⟩ := hc
        exact h.note hi ho hp hr hn ha
      | obtain ⟨p, hp, hr, hre⟩ := hc
        exact h.finish ho hp hr hre

theorem Sound.step (h : Sound s) (event : JwksEvent × Int) : Sound (s.step env event) := by
  have h' := h.tick (le_max_left s.clock event.2)
  unfold JwksClient.step
  generalize { s with clock := max s.clock event.2 } = s' at h'
  have ha : ∀ i c, s'.chains[i]? = some c → Sound (s'.advance env i c event.1) := by
    intro i c hi
    rcases h'.slot with ⟨hn, -⟩ | ⟨c', ho, hin, hc⟩
    · simp [hn] at hi
    · rw [ho, getElem?_singleton] at hi
      split at hi
      · next hz =>
        cases hi
        rw [hz]
        exact h'.advance ho hin hc
      · cases hi
  dsimp only
  split
  · exact h'.getSigningKey _
  all_goals
    split
    · next hi => exact ha _ _ hi
    · exact h'

theorem Sound.run (env : JwksEnv) (clock : Int) (events : List (JwksEvent × Int)) :
    Sound (JwksClient.run env clock events) :=
  foldlRecOn events (JwksClient.step env)
    ⟨.inl ⟨rfl, rfl, nofun⟩, .nil, nofun, nofun, nofun, rfl⟩ fun _ h event _ => h.step event

end Steps

/-- At any time there is at most one fetch that has a microtask to run. A fetch starts only when the keys or
the error of each earlier one have expired. Every call is answered or waits for the fetch, and when the
microtasks of the fetch have run, all who waited have its outcome. A key comes from a fetch that the call
waited for, or from one that ended less than five minutes before. -/
theorem jwks_fetches (env : JwksEnv) (clock : Int) (events : List (JwksEvent × Int)) :
    let s := JwksClient.run env clock events
    s.chains.length ≤ 1 ∧
    (s.past.Pairwise fun later earlier => earlier.quietUntil ≤ later.startedAt) ∧
    (∀ c ∈ s.chains, c.stage = .fetching → ∀ p ∈ s.past, p.quietUntil ≤ c.startedAt) ∧
    s.answers.length + (s.chains.flatMap (·.waiters)).length = s.calls ∧
    (∀ c ∈ s.chains, ∀ call ∈ c.waiters, ∀ outcome t₁ t₂ t₃,
      let s' := [(.settle 0 outcome, t₁), (.note 0, t₂), (.finish 0, t₃)].foldl (JwksClient.step env) s
      s'.chains = [] ∧ ∃ p ∈ s'.past.head?, (call, .awaited p.result) ∈ s'.answers) ∧
    ∀ answer ∈ s.answers, ∀ pem, outcome env answer = .ok pem →
      ∃ p ∈ s.past, ∃ entry, p.result = .ok entry ∧ pem ∈ entry.keys.map Prod.snd ∧
        (answer.1.calledAt - p.settledAt < SUCCESS_TTL_MS ∨ answer.2 = .awaited p.result) := by
  intro s
  have h : Sound s := .run env clock events
  refine ⟨?_, h.apart, ?_, h.calls, ?_, ?_⟩
  · rcases h.slot with ⟨hn, -⟩ | ⟨c, ho, -⟩
    · simp [hn]
    · simp [ho]
  · intro c hm hs
    rcases h.slot with ⟨hn, -⟩ | ⟨c', ho, -, hc⟩
    · simp [hn] at hm
    · obtain rfl : c = c' := by simpa [ho] using hm
      simp only [Chain.Sound, hs] at hc
      exact hc.2
  · intro c hm call hca outcome t₁ t₂ t₃
    rcases h.slot with ⟨hn, -⟩ | ⟨c', ho, -, hc⟩
    · simp [hn] at hm
    · obtain rfl : c = c' := by simpa [ho] using hm
      unfold Chain.Sound at hc
      -- a microtask that has run does not run again
      cases hs : c.stage <;> rw [hs] at hc
      case fetching => simp [JwksClient.step, JwksClient.advance, ho, hs, hca]
      all_goals
        obtain ⟨p, hp, hr, -⟩ := hc
        simp [JwksClient.step, JwksClient.advance, ho, hs]
        exact ⟨p, hp, by simp [hr, hca]⟩
  · intro answer hm pem hou
    obtain ⟨entry, hen, hpe⟩ := Throwing.bind_eq_ok.mp hou
    have hj := h.answers answer hm
    unfold Justified at hj
    have hk := CacheEntry.mem_of_select hpe
    split at hj
    · next e heq =>
      rw [heq] at hen
      cases hen
      obtain ⟨p, hp, hr, hf⟩ := hj
      exact ⟨p, hp, _, hr, hk, .inl hf⟩
    · next heq =>
      rw [heq] at hen
      cases hen
    · next heq =>
      rw [heq] at hen
      obtain ⟨p, hp, rfl⟩ := hj
      exact ⟨p, hp, _, hen, hk, .inr heq⟩

end AcdpControlPlane.Jwks
