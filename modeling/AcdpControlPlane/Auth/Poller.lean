import AcdpControlPlane.Auth.Feed
import AcdpControlPlane.Auth.FeedConfig

/-!
# The poller

`pollFeed` of `src/auth/revocation-poller.service.ts`, from the bytes that a peer serves to the cursor.
What a peer serves is arbitrary: the entries are read from whatever JSON it is, and a number may be any
number. An entry that the checks of the poller refuse is dropped for good; an entry that the store refuses
is taken to have failed for now, so the cursor stays and the page is asked for again.
-/

namespace AcdpControlPlane

/-! ## What a peer serves -/

/-- The platform. Numbers have a value in `K` if they are finite. -/
structure FeedPlatform (K : Type) where
  number : String → Option K
  finite : JsNumber → Option K
  toNumber : Option Json → Except JsError JsNumber
  requestUrl : String → String → Except JsError String

structure WireEntry where
  jti : String
  sub : String
  iss : String
  exp : JsNumber
  revokedAtMs : JsNumber
deriving DecidableEq, Repr

structure WirePage where
  entries : List WireEntry
  nextCursor : Option JsNumber
deriving DecidableEq, Repr

structure FeedReply where
  status : ℕ
  contentLength : Option String
  byteLength : ℕ
  json : Option Json

def MAX_FEED_BYTES : ℕ := 1024 * 1024

section Fetch

variable {K : Type} [Field K] [LinearOrder K] [FloorRing K] (platform : FeedPlatform K)

def FeedPlatform.asNumber : Option Json → Except JsError JsNumber
  | some (.num n) => .ok n
  | v => platform.toNumber v

/-- Read an entry; what is not an object or has no token id is skipped. -/
def readWireEntry (raw : Json) : Except JsError (Option WireEntry) :=
  match raw.member "jti" with
  | some (.str jti) =>
    if jti = "" then .ok none
    else do
      let exp ← platform.asNumber (raw.member "exp")
      let revokedAtMs ← platform.asNumber (raw.member "revoked_at_ms")
      return some {
        jti
        sub := (Json.strOf (raw.member "sub")).getD ""
        iss := (Json.strOf (raw.member "iss")).getD ""
        exp
        revokedAtMs }
  | _ => .ok none

def RevocationPollerService.normalizeFeedResponse (json : Json) (url : String) :
    Except JsError WirePage :=
  if Json.isObjectLike (some json) then
    match json.member "entries" with
    | some (.arr raws) => do
      let entries ← raws.mapM (readWireEntry platform)
      let nextCursor := match json.member "next_cursor" with
        | some (.num n) => some n
        | _ => none
      return { entries := entries.reduceOption, nextCursor }
    | _ => .error ⟨"feed " ++ url ++ " payload has no entries array"⟩
  else .error ⟨"feed " ++ url ++ " payload is not an object"⟩

def fetchOnce (isDevelopment : Bool) (feed : RevocationFeedConfig)
    (fetch : String → Except JsError FeedReply) (cursor : JsNumber) : Except JsError WirePage := do
  if ¬isDevelopment ∧ ¬startsWith feed.feedUrl.toLower "https://" then
    throw ⟨"feed_url " ++ feed.feedUrl ++ " must be https outside development"⟩
  let url ← platform.requestUrl feed.feedUrl cursor.text
  let resp ← fetch url
  if 300 ≤ resp.status ∧ resp.status < 400 then
    throw ⟨"feed " ++ feed.feedUrl ++ " returned a redirect (refused)"⟩
  if ¬(200 ≤ resp.status ∧ resp.status < 300) then
    throw ⟨"feed " ++ feed.feedUrl ++ " returned HTTP " ++ toString resp.status⟩
  let tooLarge : JsError :=
    ⟨"feed " ++ feed.feedUrl ++ " exceeds " ++ toString MAX_FEED_BYTES ++ "-byte cap"⟩
  if (platform.number (resp.contentLength.getD "")).any ((MAX_FEED_BYTES : K) < ·) then throw tooLarge
  if MAX_FEED_BYTES < resp.byteLength then throw tooLarge
  match resp.json with
  | none => throw ⟨"feed " ++ feed.feedUrl ++ " returned invalid JSON"⟩
  | some json => RevocationPollerService.normalizeFeedResponse platform json feed.feedUrl

/-! ## The entries of a page -/

/-- The record of an entry, unless it is dropped for good: of another issuer, or with an expiry that is
not a positive finite number. -/
def acceptedRecord (issuer : String) (e : WireEntry) : Option (RevocationRecord K) :=
  if e.iss ≠ "" ∧ e.iss ≠ issuer then none
  else
    match platform.finite e.exp with
    | none => none
    | some exp =>
      if exp ≤ 0 then none else some (importedRecord issuer ⟨e.jti, e.sub, e.iss, exp, 0⟩)

inductive EntryOutcome where
  | applied
  | dropped
  | failed
deriving DecidableEq, Repr

/-- Record a revocation, with what may happen to the statement: whether it succeeded, and the store. -/
def revokeUnder {persistence : Persistence} (fault : Fault) (record : RevocationRecord K) (now : K)
    (table : RevocationTable K persistence) : Bool × RevocationTable K persistence :=
  match fault, revoke record now table with
  | .none, (.ok _, table') => (true, table')
  | .none, (.error _, table') => (false, table')
  | .unacknowledged, (_, table') => (false, table')
  | .lost, _ => (false, table)

def applyWireEntry {persistence : Persistence} (issuer : String) (e : WireEntry) (now : K)
    (fault : Fault) (table : RevocationTable K persistence) :
    EntryOutcome × RevocationTable K persistence :=
  match acceptedRecord platform issuer e with
  | none => (.dropped, table)
  | some record =>
    let called := revokeUnder fault record now table
    (if called.1 then .applied else .failed, called.2)

/-- What happens to a store, by polls and by everything else. -/
inductive StoreOp (K : Type) where
  | revoke (record : RevocationRecord K) (now : K) (fault : Fault)
  | evictExpired (now : K)
  | isRevoked (iss jti : String) (now : K)
  | applyEntry (issuer : String) (e : WireEntry) (now : K) (fault : Fault)

def StoreOp.next {persistence : Persistence} (table : RevocationTable K persistence) :
    StoreOp K → RevocationTable K persistence
  | .revoke record now fault => (revokeUnder fault record now table).2
  | .evictExpired now => AcdpControlPlane.evictExpired now table
  | .isRevoked iss jti now => (AcdpControlPlane.isRevoked iss jti now table).2
  | .applyEntry issuer e now fault => (applyWireEntry platform issuer e now fault table).2

def runOps {persistence : Persistence} (ops : List (StoreOp K))
    (table : RevocationTable K persistence) : RevocationTable K persistence :=
  ops.foldl (StoreOp.next platform) table

/-- The surroundings of one entry: what happened since the one before it, and its own call. -/
structure EntryCall (K : Type) where
  meanwhile : List (StoreOp K)
  now : K
  fault : Fault

structure ApplyResult where
  applied : ℕ
  dropped : ℕ
  allSucceeded : Bool
deriving DecidableEq, Repr

def ApplyResult.add (outcome : EntryOutcome) (rest : ApplyResult) : ApplyResult :=
  match outcome with
  | .applied => { rest with applied := rest.applied + 1 }
  | .dropped => { rest with dropped := rest.dropped + 1 }
  | .failed => { rest with allSucceeded := false }

def applyEntries {persistence : Persistence} (issuer : String) (calls : ℕ → EntryCall K) :
    ℕ → List WireEntry → RevocationTable K persistence →
      ApplyResult × RevocationTable K persistence
  | _, [], table => (⟨0, 0, true⟩, table)
  | i, e :: es, table =>
    let before := runOps platform (calls i).meanwhile table
    let applied := applyWireEntry platform issuer e (calls i).now (calls i).fault before
    let rest := applyEntries issuer calls (i + 1) es applied.2
    (rest.1.add applied.1, rest.2)

end Fetch

/-! ## A poll -/

structure PollResult where
  fetched : ℕ
  applied : ℕ
  dropped : ℕ
  allSucceeded : Bool
  cursor : JsNumber
deriving DecidableEq, Repr

/-- The store of a process and the cursors it holds in memory. -/
structure PollerState (K : Type) (persistence : Persistence) where
  table : RevocationTable K persistence
  cursors : String → Option JsNumber

structure PollInput (K : Type) where
  fetch : String → Except JsError FeedReply
  calls : ℕ → EntryCall K

section Polls

variable {K : Type} [Field K] [LinearOrder K] [FloorRing K] (platform : FeedPlatform K)
  (isDevelopment : Bool) {persistence : Persistence} (feed : RevocationFeedConfig)

/-- Poll a feed once. Whether the cursor can be persisted is logged, and changes nothing here. -/
def pollFeed (input : PollInput K) (s : PollerState K persistence) :
    PollResult × PollerState K persistence :=
  let cursor := (s.cursors feed.issuer).getD 0
  match fetchOnce platform isDevelopment feed input.fetch cursor with
  | .error _ => (⟨0, 0, 0, false, cursor⟩, s)
  | .ok page =>
    let applied := applyEntries platform feed.issuer input.calls 0 page.entries s.table
    let newCursor := if applied.1.allSucceeded then page.nextCursor else none
    (⟨page.entries.length, applied.1.applied, applied.1.dropped, applied.1.allSucceeded,
        newCursor.getD cursor⟩,
      { table := applied.2
        cursors := match newCursor with
          | some newCursor => Function.update s.cursors feed.issuer (some newCursor)
          | none => s.cursors })

/-- The store takes the record, if nothing goes wrong. -/
def Storable (persistence : Persistence) (record : RevocationRecord K) : Prop :=
  persistence = .postgres → fitsColumns record

variable {platform isDevelopment feed}

variable {fault : Fault} {record : RevocationRecord K} {now : K} {table : RevocationTable K persistence}
  {issuer : String}

theorem revokeUnder_fst :
    (revokeUnder fault record now table).1 = true ↔ fault = .none ∧ Storable persistence record := by
  cases fault with
  | none =>
    unfold revokeUnder revoke Storable
    by_cases hr : persistence = .postgres ∧ ¬fitsColumns record
    · rw [if_pos hr]
      exact iff_of_false (fun h => nomatch h) fun h => hr.2 (h.2 hr.1)
    · rw [if_neg hr]
      refine iff_of_true rfl ⟨rfl, fun hp => ?_⟩
      by_contra hf
      exact hr ⟨hp, hf⟩
  | lost => exact iff_of_false (fun h => nomatch h) (fun h => nomatch h.1)
  | unacknowledged => exact iff_of_false (fun h => nomatch h) (fun h => nomatch h.1)

theorem revokeUnder_snd (hf : fault ≠ .lost) :
    (revokeUnder fault record now table).2 = (revoke record now table).2 := by
  cases fault with
  | none =>
    unfold revokeUnder revoke
    by_cases hr : persistence = .postgres ∧ ¬fitsColumns record
    · rw [if_pos hr]
    · rw [if_neg hr]
  | lost => exact absurd rfl hf
  | unacknowledged => rfl

theorem applyWireEntry_failed_iff {e : WireEntry} :
    (applyWireEntry platform issuer e now fault table).1 = .failed ↔
      ∃ record, acceptedRecord platform issuer e = some record ∧
        ¬(fault = .none ∧ Storable persistence record) := by
  unfold applyWireEntry
  cases ha : acceptedRecord platform issuer e with
  | none => exact iff_of_false (fun h => nomatch h) (fun ⟨_, h, _⟩ => nomatch h)
  | some record =>
    simp only [Option.some.injEq, exists_eq_left']
    rw [← @revokeUnder_fst K _ _ _ persistence fault record now table]
    cases (revokeUnder fault record now table).1 <;> simp

theorem allSucceeded_applyEntries {calls : ℕ → EntryCall K} {i : ℕ} {entries : List WireEntry} :
    (applyEntries platform issuer calls i entries table).1.allSucceeded = true ↔
      ∀ j e record, entries[j]? = some e → acceptedRecord platform issuer e = some record →
        (calls (i + j)).fault = .none ∧ Storable persistence record := by
  induction entries generalizing i table with
  | nil => exact iff_of_true rfl fun j e record h => nomatch h
  | cons e entries ih =>
    have had : ∀ (outcome : EntryOutcome) (rest : ApplyResult),
        (rest.add outcome).allSucceeded = true ↔ outcome ≠ .failed ∧ rest.allSucceeded = true := by
      intro outcome rest
      cases outcome <;> simp [ApplyResult.add]
    simp only [applyEntries]
    rw [had, ih, Ne, applyWireEntry_failed_iff, not_exists]
    constructor
    · rintro ⟨hf, hre⟩ j e' record hj ha
      cases j with
      | zero =>
        cases hj
        by_contra hr
        exact hf record ⟨ha, hr⟩
      | succ j =>
        rw [← Nat.add_assoc, Nat.add_right_comm]
        exact hre j e' record hj ha
    · intro hal
      refine ⟨fun record ⟨ha, hr⟩ => hr (hal 0 e record rfl ha), ?_⟩
      intro j e' record hj ha
      have hn := hal (j + 1) e' record hj ha
      rwa [← Nat.add_assoc, Nat.add_right_comm] at hn

theorem cursors_pollFeed {input : PollInput K} {s : PollerState K persistence} {page : WirePage}
    {newCursor : JsNumber}
    (hp : fetchOnce platform isDevelopment feed input.fetch ((s.cursors feed.issuer).getD 0) =
      .ok page) (hn : page.nextCursor = some newCursor) :
    (pollFeed platform isDevelopment feed input s).2.cursors feed.issuer =
      if (applyEntries platform feed.issuer input.calls 0 page.entries s.table).1.allSucceeded then
        some newCursor
      else s.cursors feed.issuer := by
  unfold pollFeed
  dsimp only
  rw [hp]
  dsimp only
  rw [hn]
  by_cases hs :
      (applyEntries platform feed.issuer input.calls 0 page.entries s.table).1.allSucceeded = true
  · rw [if_pos hs, if_pos hs]
    exact Function.update_self feed.issuer (some newCursor) s.cursors
  · rw [if_neg hs, if_neg hs]

theorem applyEntry_eq_applyWireEntry {e : WireEntry} {exp : K} (hex : platform.finite e.exp = some exp) :
    let typed := applyEntry issuer ⟨e.jti, e.sub, e.iss, exp, 0⟩ now fault table
    let wired := applyWireEntry platform issuer e now fault table
    typed.2.2 = wired.2 ∧ (typed.1 = true ↔ wired.1 ≠ .failed) := by
  have hd : isDeadLetter issuer ⟨e.jti, e.sub, e.iss, exp, 0⟩ ↔
      (e.iss ≠ "" ∧ e.iss ≠ issuer) ∨ exp ≤ 0 := decide_eq_true_iff
  by_cases hf : e.iss ≠ "" ∧ e.iss ≠ issuer
  · simp [applyEntry, applyWireEntry, acceptedRecord, hd, hf]
  · by_cases hm : exp ≤ 0
    · simp [applyEntry, applyWireEntry, acceptedRecord, hd, hex, hm]
    · have hac : acceptedRecord platform issuer e =
          some (importedRecord issuer ⟨e.jti, e.sub, e.iss, exp, 0⟩) := by
        simp only [acceptedRecord, if_neg hf, hex, if_neg hm]
      have ha : ¬isDeadLetter issuer ⟨e.jti, e.sub, e.iss, exp, 0⟩ := by
        rw [hd]
        exact fun h => h.elim hf hm
      simp only [applyEntry, applyWireEntry, hac, if_neg ha, revokeUnder]
      cases fault with
      | none =>
        by_cases hr : persistence = .postgres ∧
            ¬fitsColumns (importedRecord issuer ⟨e.jti, e.sub, e.iss, exp, 0⟩)
        · simp only [revoke, if_pos hr]
          simp
        · simp only [revoke, if_neg hr]
          simp
      | lost => simp
      | unacknowledged => simp

/-- **When the cursor advances.** The entries that the store can take are applied without a transient
error. Then the poll leaves the cursor of the page, if it was there already, or if the store can take
every entry that passes the checks of the poller. -/
theorem pollFeed_advances_iff {input : PollInput K} {s : PollerState K persistence}
    {page : WirePage} {newCursor : JsNumber}
    (hpage : fetchOnce platform isDevelopment feed input.fetch ((s.cursors feed.issuer).getD 0) =
      .ok page) (hnext : page.nextCursor = some newCursor)
    (hclean : ∀ i e record, page.entries[i]? = some e →
      acceptedRecord platform feed.issuer e = some record → Storable persistence record →
      (input.calls i).fault = .none) :
    (pollFeed platform isDevelopment feed input s).2.cursors feed.issuer = some newCursor ↔
      s.cursors feed.issuer = some newCursor ∨
        ∀ e ∈ page.entries, ∀ record, acceptedRecord platform feed.issuer e = some record →
          Storable persistence record := by
  rw [cursors_pollFeed hpage hnext]
  have hal : (applyEntries platform feed.issuer input.calls 0 page.entries s.table).1.allSucceeded ↔
      ∀ e ∈ page.entries, ∀ record, acceptedRecord platform feed.issuer e = some record →
        Storable persistence record := by
    rw [allSucceeded_applyEntries]
    constructor
    · intro h e he record ha
      obtain ⟨i, hi⟩ := List.mem_iff_getElem?.mp he
      exact (h i e record hi ha).2
    · intro h i e record hi ha
      have hs := h e (List.mem_of_getElem? hi) record ha
      rw [Nat.zero_add]
      exact ⟨hclean i e record hi ha hs, hs⟩
  rw [← hal]
  split
  · next hsu => exact iff_of_true rfl (Or.inr hsu)
  · next hf => exact (or_iff_left hf).symm

end Polls

/-! ## A page that cannot be applied -/

/-- Numbers are whole, and what is not a number is converted to `NaN`. -/
def sampleFeedPlatform : FeedPlatform ℚ where
  number _ := none
  finite n := n.int?.map (↑)
  toNumber _ := .ok ⟨none, "NaN"⟩
  requestUrl url since := .ok (url ++ "?since=" ++ since ++ "&limit=200")

def sampleFeed : RevocationFeedConfig :=
  ⟨"peer.example", "https://peer.example/auth/revocations", "key", 300⟩

def samplePollInput (jti : String) : PollInput ℚ where
  fetch _ := .ok ⟨200, none, 100, some (.obj [("entries", .arr [.obj [("jti", .str "malformed")],
    .obj [("jti", .str "t1"), ("exp", .num 100)], .obj [("jti", .str jti), ("exp", .num 100)]]),
    ("next_cursor", .num 5)])⟩
  calls _ := ⟨[], 0, .none⟩

def sampleWireEntry (jti : String) (exp : JsNumber) : WireEntry := ⟨jti, "", "", exp, ⟨none, "NaN"⟩⟩

def sampleWirePage (jti : String) : WirePage :=
  ⟨[sampleWireEntry "malformed" ⟨none, "NaN"⟩, sampleWireEntry "t1" 100, sampleWireEntry jti 100],
    some 5⟩

theorem fetchOnce_samplePollInput {jti : String} (h : jti ≠ "") (cursor : JsNumber) :
    fetchOnce sampleFeedPlatform true sampleFeed (samplePollInput jti).fetch cursor =
      .ok (sampleWirePage jti) := by
  have hr : readWireEntry sampleFeedPlatform (.obj [("jti", .str jti), ("exp", .num 100)]) =
      .ok (some (sampleWireEntry jti 100)) := if_neg h
  have hen : [Json.obj [("jti", .str "malformed")], .obj [("jti", .str "t1"), ("exp", .num 100)],
      .obj [("jti", .str jti), ("exp", .num 100)]].mapM (readWireEntry sampleFeedPlatform) =
      .ok [some (sampleWireEntry "malformed" ⟨none, "NaN"⟩), some (sampleWireEntry "t1" 100),
        some (sampleWireEntry jti 100)] := by
    rw [List.mapM_cons, List.mapM_cons, List.mapM_cons, hr]
    rfl
  -- the URL is built, the response arrives, and its body is read
  refine Throwing.bind_eq_ok.mpr ⟨_, rfl, ?_⟩
  refine Throwing.bind_eq_ok.mpr ⟨_, rfl, ?_⟩
  exact Throwing.bind_eq_ok.mpr ⟨_, hen, rfl⟩

theorem acceptedRecord_sampleWireEntry (jti : String) :
    acceptedRecord sampleFeedPlatform "peer.example" (sampleWireEntry jti 100) =
      some ⟨jti, "", "peer.example", 100, "cross-issuer-poll:peer.example", .unspecified, none⟩ := by
  have hex : sampleFeedPlatform.finite 100 = some 100 := rfl
  have hp : ¬(100 : ℚ) ≤ 0 := by norm_num
  unfold acceptedRecord sampleWireEntry
  rw [if_neg (fun h => h.1 rfl), hex]
  dsimp only
  rfl

/-- The two valid tokens are stored, the malformed entry is dropped, and the cursor advances. -/
theorem pollFeed_advances_iff_short :
    (pollFeed sampleFeedPlatform true sampleFeed (samplePollInput "t2")
      (⟨.empty _, fun _ => none⟩ : PollerState ℚ .postgres)).2.cursors "peer.example" = some 5 := by
  refine (pollFeed_advances_iff (fetchOnce_samplePollInput (by decide) _) rfl
    (fun _ _ _ _ _ _ => rfl)).mpr (Or.inr ?_)
  intro e he record ha _
  rcases List.mem_cons.mp he with rfl | he
  · cases ha
  have hs : ∀ jti : String, jti.length ≤ 64 → NulFree jti →
      acceptedRecord sampleFeedPlatform "peer.example" (sampleWireEntry jti 100) = some record →
      fitsColumns record := by
    intro jti hl hn h
    rw [acceptedRecord_sampleWireEntry] at h
    cases h
    refine ⟨hl, ⟨by norm_num, by norm_num, by norm_num⟩, ?_⟩
    intro text ht
    simp only [List.mem_cons, List.not_mem_nil, or_false] at ht
    rcases ht with rfl | rfl | rfl | rfl
    · exact hn
    · decide
    · decide
    · decide
  rcases List.mem_cons.mp he with rfl | he
  · exact hs "t1" (by decide) (by decide) ha
  · rw [List.mem_singleton.mp he] at ha
    exact hs "t2" (by decide) (by decide) ha

def longJti : String := String.ofList (List.replicate 65 'x')

theorem cursors_pollFeed_longJti (s : PollerState ℚ .postgres) :
    (pollFeed sampleFeedPlatform true sampleFeed (samplePollInput longJti) s).2.cursors
      "peer.example" = s.cursors "peer.example" := by
  refine (cursors_pollFeed (fetchOnce_samplePollInput (by decide) _) rfl).trans (if_neg ?_)
  rw [allSucceeded_applyEntries]
  intro h
  have hf := (h 2 (sampleWireEntry longJti 100) _ rfl (acceptedRecord_sampleWireEntry _)).2 rfl
  exact absurd hf.1 (by decide)

theorem cursors_iterate_pollFeed_longJti (s : PollerState ℚ .postgres) (n : ℕ) :
    ((fun s => (pollFeed sampleFeedPlatform true sampleFeed (samplePollInput longJti) s).2)^[n] s).cursors
      "peer.example" = s.cursors "peer.example" := by
  induction n with
  | zero => rfl
  | succ n ih =>
    rw [Function.iterate_succ_apply', cursors_pollFeed_longJti]
    exact ih

/-- With a token id of 65 characters on it, the page is asked for forever. -/
theorem pollFeed_stalls :
    longJti.length = 65 ∧
      ∀ n : ℕ, ((fun s => (pollFeed sampleFeedPlatform true sampleFeed (samplePollInput longJti) s).2)^[n]
        (⟨.empty _, fun _ => none⟩ : PollerState ℚ .postgres)).cursors "peer.example" = none :=
  ⟨by decide, cursors_iterate_pollFeed_longJti _⟩

end AcdpControlPlane
