import AcdpControlPlane.Common.Federation
import AcdpControlPlane.Common.Throwing

/-!
# The federation client

`SafeFederationClient.get` of `src/contexts/safe-federation-client.ts` follows redirects by hand, so
that each hop passes the checks of `src/auth/did-web/ssrf-guard.ts`. The world answers a hop as it
likes: the lookup of the host, the request, and each read of the body.
-/

namespace AcdpControlPlane.SafeFederationClient

open Throwing

structure Url where
  protocol : String
  host : String
  hostname : String
  href : String

/-- A response: the headers the client reads, with the finite number its length header stands for,
and the reads of its body until it is done. -/
structure Response where
  status : ℕ
  location : Option String
  retryAfter : Option String
  contentType : Option String
  contentLength : Option ℕ
  body : Option (List (Except String (List UInt8)))

structure World where
  lookup : String → Except String (List String)
  fetch : String → Except String Response

/-- The URL parser, alone and with a base, `isIP`, the range check of the binding, and the decoder. -/
structure Platform where
  parse : String → Except String Url
  resolve : String → String → Except String Url
  isIP : String → Bool
  checkIp : String → Except String Unit
  decode : List UInt8 → String
  allowHttp : Bool

/-! ## The checks of a hop -/

section Client

variable (p : Platform)

/-- The host without the brackets of an IPv6 literal. -/
def stripBrackets (hostname : String) : String :=
  let cs := hostname.toList
  let cs := if cs.head? = some '[' then cs.tail else cs
  String.ofList (if cs.getLast? = some ']' then cs.dropLast else cs)

def checkUrl (url : String) : Except String Unit := do
  let parsed ← (p.parse url).mapError fun e => "invalid URL '" ++ url ++ "': " ++ e
  if parsed.protocol ≠ "https:" ∧ ¬(p.allowHttp ∧ parsed.protocol = "http:") then
    .error ("SSRF policy: scheme '" ++ parsed.protocol ++ "' is not https")
  else
    let host := stripBrackets parsed.hostname
    if p.isIP host then
      .error ("SSRF policy: IP-literal authority '" ++ host ++
        "' is not allowed (cert chain won't validate)")
    else .ok ()

def checkResolvedHost (world : World) (hostname : String) : Except String (List String) := do
  let addrs ← world.lookup hostname
  if addrs = [] then .error ("DNS lookup for '" ++ hostname ++ "' returned no addresses")
  else do
    addrs.forM fun addr => (p.checkIp addr).mapError ("SSRF policy: " ++ ·)
    return addrs

def safeOrigin (url : String) : String :=
  match p.parse url with
  | .ok u => u.protocol ++ "//" ++ u.host
  | .error _ => ""

def safeHost (url : String) : String :=
  match p.parse url with
  | .ok u => u.host
  | .error _ => "<unknown>"

/-- Both checks of a hop. -/
def gate (world : World) (url : String) : Except FetchError Unit := do
  (checkUrl p url).mapError fun e => ⟨some .SSRF, e⟩
  let parsed ← (p.parse url).mapError fun e => ⟨none, e⟩
  discard <| (checkResolvedHost p world parsed.hostname).mapError fun e => ⟨some .SSRF, e⟩

/-! ## The body -/

def tooLarge (url what : String) : FetchError :=
  ⟨some .BODY_TOO_LARGE, "'" ++ url ++ what ++ "B exceeds " ++ toString MAX_BODY_BYTES ++ "B cap"⟩

/-- The loop over the reads: how many there are, and the chunks. -/
def readLoop (url : String) : List (Except String (List UInt8)) → ℕ → List (List UInt8) →
    ℕ × Except FetchError (List (List UInt8))
  | [], _, chunks => (0, .ok chunks)
  | .error e :: _, _, _ => (1, .error ⟨some .FETCH, "GET '" ++ url ++ "' body read failed: " ++ e⟩)
  | .ok chunk :: reads, total, chunks =>
    let total := total + chunk.length
    if MAX_BODY_BYTES < total then (1, .error (tooLarge url ("' body " ++ toString total)))
    else
      let rest := readLoop url reads total (chunks ++ [chunk])
      (rest.1 + 1, rest.2)

def readCapped (resp : Response) (url : String) : ℕ × Except FetchError String :=
  match resp.contentLength.filter (MAX_BODY_BYTES < ·), resp.body with
  | some declared, _ => (0, .error (tooLarge url ("' Content-Length " ++ toString declared)))
  | none, none => (0, .ok "")
  | none, some reads =>
    let loop := readLoop url reads 0 []
    (loop.1, loop.2.map fun chunks => p.decode chunks.flatten)

/-! ## The hops -/

def MAX_REDIRECTS : ℕ := 3

/-- The URL a redirect leads to. -/
def redirect (origin url : String) (resp : Response) : Except FetchError String :=
  match resp.location.filter (· ≠ "") with
  | none => .error ⟨some .REDIRECT, "redirect from '" ++ url ++ "' had no Location header"⟩
  | some location => do
    let next ← (p.resolve location url).mapError fun e =>
      ⟨some .REDIRECT, "invalid redirect target: " ++ e⟩
    if safeOrigin p next.href ≠ origin then
      .error ⟨some .REDIRECT,
        "cross-authority redirect '" ++ url ++ "' → '" ++ next.host ++ "' rejected"⟩
    else .ok next.href

/-- A request: its hop, its URL, and the reads of the body. -/
structure Request where
  hop : ℕ
  url : String
  reads : ℕ

structure FederationResponse where
  status : ℕ
  contentType : Option String
  body : String

/-- The loop over the hops, with how many are left. -/
def hops (world : ℕ → World) (rawUrl : String) :
    ℕ → ℕ → String → List Request × Except FetchError FederationResponse
  | 0, _, _ => ([], .error ⟨some .REDIRECT,
      "exceeded " ++ toString MAX_REDIRECTS ++ " redirects fetching '" ++ rawUrl ++ "'"⟩)
  | left + 1, hop, url =>
    match gate p (world hop) url, (world hop).fetch url with
    | .error err, _ => ([], .error err)
    | .ok _, .error e =>
      ([⟨hop, url, 0⟩], .error ⟨some .FETCH, "GET '" ++ url ++ "' failed: " ++ e⟩)
    | .ok _, .ok resp =>
      if 300 ≤ resp.status ∧ resp.status < 400 then
        match redirect p (safeOrigin p rawUrl) url resp with
        | .error err => ([⟨hop, url, 0⟩], .error err)
        | .ok next =>
          let rest := hops world rawUrl left (hop + 1) next
          (⟨hop, url, 0⟩ :: rest.1, rest.2)
      else if resp.status = 429 then
        ([⟨hop, url, 0⟩], .error ⟨none, "upstream '" ++ safeHost p url ++ "' is rate limiting" ++
          ((resp.retryAfter.filter (· ≠ "")).map (" (Retry-After: " ++ · ++ ")")).getD ""⟩)
      else
        let body := readCapped p resp url
        ([⟨hop, url, body.1⟩], body.2.map (⟨resp.status, resp.contentType, ·⟩))

def get (world : ℕ → World) (rawUrl : String) :
    List Request × Except FetchError FederationResponse :=
  hops p world rawUrl (MAX_REDIRECTS + 1) 0 rawUrl

end Client

/-! ## Inside the gate -/

/-- The bytes of some reads. -/
def received (reads : List (Except String (List UInt8))) : List UInt8 :=
  (reads.filterMap Except.toOption).flatten

/-- The text is that of the whole body, which is not above the cap. -/
def Decodes (p : Platform) (resp : Response) (text : String) : Prop :=
  resp.body = none ∧ text = "" ∨ ∃ chunks : List (List UInt8), resp.body = some (chunks.map .ok) ∧
    chunks.flatten.length ≤ MAX_BODY_BYTES ∧ text = p.decode chunks.flatten

/-- What holds of the requests and the outcome of a fetch: each request was checked in its hop, goes
to the origin, and stops reading at the chunk that takes it above the cap; what is returned is the
last response, and neither a redirect nor a 429. -/
structure Gated (p : Platform) (world : ℕ → World) (origin : Url → Prop) (left : ℕ)
    (requests : List Request) (outcome : Except FetchError FederationResponse) : Prop where
  length_le : requests.length ≤ left
  checked : ∀ q ∈ requests, checkUrl p q.url = .ok () ∧ ∃ u addrs, p.parse q.url = .ok u ∧
    checkResolvedHost p (world q.hop) u.hostname = .ok addrs ∧ origin u
  stops : ∀ q ∈ requests, ∀ resp reads, (world q.hop).fetch q.url = .ok resp →
    resp.body = some reads → (received (reads.take (q.reads - 1))).length ≤ MAX_BODY_BYTES
  returned : ∀ res, outcome = .ok res → ∃ q resp, requests.getLast? = some q ∧
    (world q.hop).fetch q.url = .ok resp ∧ res.status = resp.status ∧
    ¬(300 ≤ res.status ∧ res.status < 400) ∧ res.status ≠ 429 ∧ Decodes p resp res.body

variable {p : Platform} {world : ℕ → World} {url rawUrl : String}

theorem readLoop_spec (url : String) {total : ℕ} {chunks : List (List UInt8)}
    (reads : List (Except String (List UInt8))) (ht : total = chunks.flatten.length)
    (hm : total ≤ MAX_BODY_BYTES) :
    total + (received (reads.take ((readLoop url reads total chunks).1 - 1))).length ≤ MAX_BODY_BYTES ∧
      ∀ out, (readLoop url reads total chunks).2 = .ok out → out.flatten.length ≤ MAX_BODY_BYTES ∧
        ∃ cs : List (List UInt8), reads = cs.map .ok ∧ out = chunks ++ cs := by
  induction reads generalizing total chunks with
  | nil =>
    refine ⟨by simpa [readLoop, received] using hm, ?_⟩
    rintro _ ⟨⟩
    exact ⟨ht ▸ hm, [], rfl, by simp⟩
  | cons read reads ih =>
    cases read with
    | error e => exact ⟨by simpa [readLoop, received] using hm, nofun⟩
    | ok chunk =>
      rw [readLoop]
      dsimp only
      split_ifs with hc
      · exact ⟨by simpa [received] using hm, nofun⟩
      · obtain ⟨hr, ho⟩ := @ih _ (chunks ++ [chunk]) (by simp [ht]) (not_lt.mp hc)
        refine ⟨?_, fun out h => ?_⟩
        · cases hn : (readLoop url reads (total + chunk.length) (chunks ++ [chunk])).1 with
          | zero => simpa [received] using hm
          | succ n =>
            rw [hn] at hr
            simpa [received, Except.toOption, Nat.add_assoc] using hr
        · obtain ⟨hl, cs, rfl, rfl⟩ := ho out h
          exact ⟨hl, chunk :: cs, rfl, by simp⟩

theorem readCapped_spec (resp : Response) (url : String) :
    (∀ reads, resp.body = some reads →
      (received (reads.take ((readCapped p resp url).1 - 1))).length ≤ MAX_BODY_BYTES) ∧
    ∀ text, (readCapped p resp url).2 = .ok text → Decodes p resp text := by
  unfold readCapped
  split
  · exact ⟨fun _ _ => by simp [received], nofun⟩
  · next hb =>
    refine ⟨by simp [hb], ?_⟩
    rintro _ ⟨⟩
    exact .inl ⟨hb, rfl⟩
  · next reads _ hb =>
    obtain ⟨hr, ho⟩ := @readLoop_spec url _ [] reads rfl (Nat.zero_le _)
    refine ⟨?_, fun text h => .inr ?_⟩
    · rintro _ h
      cases hb.symm.trans h
      simpa using hr
    · obtain ⟨out, hok, rfl⟩ := map_eq_ok.mp h
      obtain ⟨hl, _, rfl, rfl⟩ := ho out hok
      exact ⟨out, hb, hl, rfl⟩

theorem origin_of_redirect {origin next : String} {resp : Response}
    (h : redirect p origin url resp = .ok next) : safeOrigin p next = origin := by
  unfold redirect at h
  split at h
  · cases h
  · obtain ⟨target, -, h⟩ := bind_eq_ok.mp h
    obtain ⟨ho, h⟩ := ite_error_eq_ok.mp h
    cases h
    exact not_not.mp ho

/-- A URL that passed the checks of its hop, with the origin it has. -/
theorem checked_of_gate {world : World} {x : Unit} (h : gate p world url = .ok x) :
    checkUrl p url = .ok () ∧ ∃ u addrs, p.parse url = .ok u ∧
      checkResolvedHost p world u.hostname = .ok addrs ∧
      u.protocol ++ "//" ++ u.host = safeOrigin p url := by
  obtain ⟨_, hu, h⟩ := bind_eq_ok.mp h
  obtain ⟨u, hp, h⟩ := bind_eq_ok.mp h
  obtain ⟨addrs, ha, -⟩ := map_eq_ok.mp h
  have hp := mapError_eq_ok.mp hp
  exact ⟨mapError_eq_ok.mp hu, u, addrs, hp, mapError_eq_ok.mp ha, by simp [safeOrigin, hp]⟩

theorem hops_spec {left hop : ℕ} (ho : safeOrigin p url = safeOrigin p rawUrl) :
    Gated p world (fun u => u.protocol ++ "//" ++ u.host = safeOrigin p rawUrl) left
      (hops p world rawUrl left hop url).1 (hops p world rawUrl left hop url).2 := by
  induction left generalizing hop url with
  | zero => exact ⟨le_rfl, nofun, nofun, nofun⟩
  | succ left ih =>
    have hfail : ∀ {x}, gate p (world hop) url = .ok x → ∀ err, Gated p world
        (fun u => u.protocol ++ "//" ++ u.host = safeOrigin p rawUrl) (left + 1) [⟨hop, url, 0⟩]
        (.error err) := fun hg err =>
      ⟨by simp, List.forall_mem_singleton.mpr (ho ▸ checked_of_gate hg), by simp [received], nofun⟩
    rw [hops]
    split
    · exact ⟨Nat.zero_le _, nofun, nofun, nofun⟩
    · next hg _ => exact hfail hg _
    · next resp hg hf =>
      split_ifs with hr hl
      · cases hn : redirect p (safeOrigin p rawUrl) url resp with
        | error err => exact hfail hg err
        | ok next =>
          obtain ⟨hle, hc, hs, hret⟩ := @ih next (hop + 1) (origin_of_redirect hn)
          have h := hfail hg ⟨none, ""⟩
          refine ⟨Nat.succ_le_succ hle, List.forall_mem_cons.mpr ⟨h.checked _ (.head _), hc⟩,
            List.forall_mem_cons.mpr ⟨h.stops _ (.head _), hs⟩, fun res hok => ?_⟩
          obtain ⟨q, resp, hq, hres⟩ := hret res hok
          exact ⟨q, resp, by simp [List.getLast?_cons, hq], hres⟩
      · exact hfail hg _
      · obtain ⟨hs, hd⟩ := @readCapped_spec p resp url
        refine ⟨by simp, List.forall_mem_singleton.mpr (ho ▸ checked_of_gate hg),
          List.forall_mem_singleton.mpr fun resp' reads hf' => ?_, fun res hok => ?_⟩
        · cases hf.symm.trans hf'
          exact hs reads
        · obtain ⟨text, ht, rfl⟩ := map_eq_ok.mp hok
          exact ⟨_, resp, rfl, hf, rfl, hr, hl, hd text ht⟩

theorem protocol_of_checkUrl {u : Url} (hu : p.parse url = .ok u) (h : checkUrl p url = .ok ()) :
    u.protocol = "https:" ∨ u.protocol = "http:" := by
  obtain ⟨v, hv, h⟩ := bind_eq_ok.mp h
  cases hu.symm.trans (mapError_eq_ok.mp hv)
  obtain ⟨hn, -⟩ := ite_error_eq_ok.mp h
  by_contra hc
  exact hn ⟨fun h => hc (.inl h), fun h => hc (.inr h.2)⟩

/-- **Fetches stay inside the gate**: at most four requests, all to the scheme, host and port of the
initial URL. -/
theorem get_gated (p : Platform) (world : ℕ → World) (rawUrl : String) :
    Gated p world (fun u => ∃ u₀, p.parse rawUrl = .ok u₀ ∧ u.protocol = u₀.protocol ∧
      u.host = u₀.host) 4 (get p world rawUrl).1 (get p world rawUrl).2 := by
  have h := @hops_spec p world rawUrl rawUrl 4 0 rfl
  refine ⟨h.length_le, fun q hq => ?_, h.stops, h.returned⟩
  obtain ⟨hc, u, addrs, hu, ha, ho⟩ := h.checked q hq
  -- without its own first request the initial URL has no others
  have hraw : ∃ x, gate p (world 0) rawUrl = .ok x := by
    cases hg : gate p (world 0) rawUrl with
    | ok x => exact ⟨x, rfl⟩
    | error err =>
      rw [get, MAX_REDIRECTS, hops, hg] at hq
      cases hq
  obtain ⟨x, hx⟩ := hraw
  obtain ⟨hc₀, u₀, -, hu₀, -, ho₀⟩ := checked_of_gate hx
  refine ⟨hc, u, addrs, hu, ha, u₀, hu₀, ?_⟩
  have heq := congrArg String.toList (ho.trans ho₀.symm)
  rcases protocol_of_checkUrl hu hc with hp | hp <;>
    rcases protocol_of_checkUrl hu₀ hc₀ with hp₀ | hp₀ <;>
    simp [hp, hp₀] at heq ⊢ <;> exact String.toList_injective heq

theorem readLoop_chunks (url : String) (chunks : List (List UInt8)) (total : ℕ)
    (acc : List (List UInt8)) : (readLoop url (chunks.map .ok) total acc).2 =
      match readChunks total (chunks.map List.length) with
      | .error sum => .error (tooLarge url ("' body " ++ toString sum))
      | .ok _ => .ok (acc ++ chunks) := by
  induction chunks generalizing total acc with
  | nil => simp [readLoop, readChunks]
  | cons chunk chunks ih =>
    simp only [List.map_cons, readLoop, readChunks]
    split_ifs
    · rfl
    · simp [ih]

/-- The sizes of the chunks are enough to know what becomes of a body. -/
theorem readCapped_agrees (p : Platform) (url : String) (resp : Response)
    (chunks : List (List UInt8)) (json : Except JsError Json) :
    AcdpControlPlane.readCapped url ⟨resp.status, resp.contentLength, chunks.map List.length, json⟩ =
      (readCapped p { resp with body := some (chunks.map .ok) } url).2.map
        fun _ => ⟨resp.status, json⟩ := by
  unfold AcdpControlPlane.readCapped readCapped
  dsimp only
  cases resp.contentLength.filter (MAX_BODY_BYTES < ·) with
  | some declared => simp [tooLarge, String.append_assoc, Except.map]
  | none =>
    dsimp only
    rw [readLoop_chunks]
    cases readChunks 0 (chunks.map List.length) with
    | error sum => simp [tooLarge, String.append_assoc, Except.map]
    | ok total => rfl

end AcdpControlPlane.SafeFederationClient
