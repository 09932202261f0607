import AcdpControlPlane.Common.DidAuthority
import AcdpControlPlane.Common.Separated
import AcdpControlPlane.Common.Throwing

/-!
# The configured feeds

`REVOCATION_FEEDS` lists the feeds of other issuers that a control plane polls
(`src/auth/revocation-feeds.ts`): `issuer|feed_url|admin_token[|poll_seconds]`, separated by commas. The
poller is part of the process only if tokens are issued (`src/auth/auth.module.ts`), and it refuses to
start with a feed of the control plane's own authority (`onModuleInit` of
`src/auth/revocation-poller.service.ts`).
-/

namespace AcdpControlPlane

open List

def DEFAULT_REVOCATION_POLL_SECONDS : Int := 300

structure RevocationFeedConfig where
  issuer : String
  feedUrl : String
  adminToken : String
  pollSeconds : Int
deriving DecidableEq, Repr

/-- The test `/^https?:\/\//`. -/
def isHttpUrl (url : String) : Bool :=
  startsWith url "http://" || startsWith url "https://"

section Parse

variable {K : Type} [Field K] [LinearOrder K] [FloorRing K]
  -- the finite value of `Number(text)`
  (number : String → Option K)

def parsePollSeconds (issuer : String) (pollRaw : Option String) : Except JsError Int :=
  match pollRaw with
  | none | some "" => .ok DEFAULT_REVOCATION_POLL_SECONDS
  | some pollRaw =>
    match number pollRaw with
    | some parsed =>
      if parsed < 1 then .error (malformed pollRaw) else .ok ⌊parsed⌋
    | none => .error (malformed pollRaw)
where
  malformed (pollRaw : String) : JsError :=
    ⟨"REVOCATION_FEEDS entry for issuer='" ++ issuer ++ "': poll_seconds must be " ++
      "a number >= 1 (got '" ++ pollRaw ++ "')"⟩

def parseFeed (seen : List String) (entry : String) : Except JsError RevocationFeedConfig :=
  match Separated.split entry '|' with
  | issuer :: feedUrl :: adminToken :: rest =>
    if issuer = "" ∨ feedUrl = "" ∨ adminToken = "" then
      .error ⟨"REVOCATION_FEEDS entry '" ++ entry ++ "' has an empty required field"⟩
    else if ¬isHttpUrl feedUrl then
      .error ⟨"REVOCATION_FEEDS entry for issuer='" ++ issuer ++ "': feed_url must be an " ++
        "http(s) URL (got '" ++ feedUrl ++ "')"⟩
    else if issuer ∈ seen then
      .error ⟨"REVOCATION_FEEDS has a duplicate issuer='" ++ issuer ++ "'"⟩
    else do
      let pollSeconds ← parsePollSeconds number issuer rest.head?
      return { issuer, feedUrl, adminToken, pollSeconds }
  | parts =>
    .error ⟨"REVOCATION_FEEDS entry '" ++ entry ++ "' has " ++ toString parts.length ++ " fields; " ++
      "minimum is issuer|feed_url|admin_token"⟩

/-- The loop over the entries, with what was pushed so far. -/
def parseFeeds : List String → List RevocationFeedConfig → Except JsError (List RevocationFeedConfig)
  | [], out => .ok out
  | entry :: entries, out => do
    let feed ← parseFeed number (out.map (·.issuer)) entry
    parseFeeds entries (out ++ [feed])

def parseRevocationFeeds (raw : String) : Except JsError (List RevocationFeedConfig) :=
  parseFeeds number (((Separated.split raw ',').map jsTrim).filter (· ≠ "")) []

/-- Refuse a feed of the own authority: its entries would be stored under the local issuer. -/
def refuseClash (jwtAuthority : String) (feeds : List RevocationFeedConfig) :
    Except JsError (List RevocationFeedConfig) :=
  match feeds.find? (·.issuer = jwtAuthority) with
  | some clash =>
    .error ⟨"REVOCATION_FEEDS issuer='" ++ clash.issuer ++ "' equals JWT_AUTHORITY; a peer feed must " ++
      "not write revocations under the local issuer"⟩
  | none => .ok feeds

/-- What the start of the process does about the feeds. Without token issuance there is no poller, and
the feeds are not even read. -/
def startPoller (tokenIssuanceEnabled : Bool) (jwtAuthority revocationFeedsRaw : String) :
    Except JsError (List RevocationFeedConfig) :=
  if tokenIssuanceEnabled then do
    let feeds ← parseRevocationFeeds number revocationFeedsRaw
    refuseClash jwtAuthority feeds
  else .ok []

variable {number}

variable {feed : RevocationFeedConfig} {feeds : List RevocationFeedConfig} {raw jwtAuthority : String}

theorem issuer_of_parseFeed {seen : List String} {entry : String}
    (h : parseFeed number seen entry = .ok feed) :
    feed.issuer ∈ Separated.split entry '|' ∧ feed.issuer ∉ seen := by
  unfold parseFeed at h
  split at h
  · next issuer feedUrl adminToken rest hp =>
    simp only [Throwing.ite_error_eq_ok] at h
    obtain ⟨-, -, hn, h⟩ := h
    obtain ⟨pollSeconds, -, h⟩ := Throwing.bind_eq_ok.mp h
    cases h
    exact ⟨hp ▸ mem_cons_self, hn⟩
  · cases h

theorem of_mem_parseFeeds {P : RevocationFeedConfig → Prop} {entries : List String}
    {out : List RevocationFeedConfig} (h : parseFeeds number entries out = .ok feeds)
    (ho : ∀ feed ∈ out, P feed)
    (hen : ∀ entry ∈ entries, ∀ seen feed, parseFeed number seen entry = .ok feed → P feed) :
    ∀ feed ∈ feeds, P feed := by
  induction entries generalizing out with
  | nil =>
    cases h
    exact ho
  | cons entry entries ih =>
    obtain ⟨parsed, hp, h⟩ := Throwing.bind_eq_ok.mp h
    apply ih h
    · intro feed hf
      rcases mem_append.mp hf with hf | hf
      · exact ho feed hf
      · rw [mem_singleton.mp hf]
        exact hen entry mem_cons_self _ parsed hp
    · exact fun entry' hm => hen entry' (mem_cons_of_mem _ hm)

theorem mem_of_mem_jsTrim {text : String} {c : Char} (h : c ∈ (jsTrim text).toList) :
    c ∈ text.toList := by
  unfold jsTrim at h
  rw [String.toList_ofList, mem_reverse] at h
  have h := mem_reverse.mp ((dropWhile_sublist _).subset h)
  exact (dropWhile_sublist _).subset h

theorem mem_parseRevocationFeeds_chars (h : parseRevocationFeeds number raw = .ok feeds)
    (hf : feed ∈ feeds) {c : Char} (hc : c ∈ feed.issuer.toList) : c ∈ raw.toList := by
  refine of_mem_parseFeeds (P := fun feed => ∀ c ∈ feed.issuer.toList, c ∈ raw.toList) h ?_ ?_
    feed hf c hc
  · exact fun _ hm => absurd hm not_mem_nil
  · intro entry hen seen feed hpr c hc
    have hen := (mem_filter.mp hen).1
    obtain ⟨part, hp, rfl⟩ := mem_map.mp hen
    apply Separated.mem_of_mem_split hp
    apply mem_of_mem_jsTrim
    exact Separated.mem_of_mem_split (issuer_of_parseFeed hpr).1 hc

theorem refuseClash_eq_ok {feeds' : List RevocationFeedConfig} :
    refuseClash jwtAuthority feeds = .ok feeds' ↔
      (∀ feed ∈ feeds, feed.issuer ≠ jwtAuthority) ∧ feeds = feeds' := by
  unfold refuseClash
  split
  · next clash hf =>
    refine iff_of_false (fun h => nomatch h) fun h => ?_
    have hi : clash.issuer = jwtAuthority := by simpa using find?_some hf
    exact h.1 clash (mem_of_find?_eq_some hf) hi
  · next hn =>
    rw [Except.ok.injEq]
    refine (and_iff_right fun feed hfe hi => ?_).symm
    exact find?_eq_none.mp hn feed hfe (decide_eq_true hi)

theorem startPoller_eq_ok {tokenIssuanceEnabled : Bool}
    (h : startPoller number tokenIssuanceEnabled jwtAuthority raw = .ok feeds) :
    feeds = [] ∨
      (parseRevocationFeeds number raw = .ok feeds ∧ ∀ feed ∈ feeds, feed.issuer ≠ jwtAuthority) := by
  unfold startPoller at h
  split at h
  · obtain ⟨parsed, hp, h⟩ := Throwing.bind_eq_ok.mp h
    obtain ⟨hi, rfl⟩ := refuseClash_eq_ok.mp h
    exact Or.inr ⟨hp, hi⟩
  · cases h
    exact Or.inl rfl

theorem startPoller_of_clash (hp : parseRevocationFeeds number raw = .ok feeds)
    (hc : ∃ feed ∈ feeds, feed.issuer = jwtAuthority) :
    ∃ e, startPoller number true jwtAuthority raw = .error e := by
  cases hs : startPoller number true jwtAuthority raw with
  | error e => exact ⟨e, rfl⟩
  | ok started =>
    obtain ⟨parsed, hp', hr⟩ := Throwing.bind_eq_ok.mp hs
    cases hp.symm.trans hp'
    obtain ⟨feed, hf, hi⟩ := hc
    exact absurd hi ((refuseClash_eq_ok.mp hr).1 feed hf)

end Parse

end AcdpControlPlane
