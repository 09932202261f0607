import AcdpControlPlane.Common.Js

/-!
# Requests to registries

What the federation client returns, and the errors it and the DID resolver throw, from
`src/contexts/safe-federation-client.ts` and `src/auth/did-web/did-web-resolver.service.ts`.
-/

namespace AcdpControlPlane

/-- A response of the federation client: its status, and what `JSON.parse` makes of its body. -/
structure FederationResponse where
  status : ℕ
  json : Except JsError Json

def FederationResponse.isSuccess (resp : FederationResponse) : Bool :=
  200 ≤ resp.status && resp.status < 300

/-- The codes of a `FederationFetchError`. -/
inductive FederationFetchCode where
  | SSRF
  | FETCH
  | REDIRECT
  | BODY_TOO_LARGE
deriving DecidableEq, Repr

def FederationFetchCode.text : FederationFetchCode → String
  | .SSRF => "SSRF"
  | .FETCH => "FETCH"
  | .REDIRECT => "REDIRECT"
  | .BODY_TOO_LARGE => "BODY_TOO_LARGE"

/-- The codes of a `DidResolutionError`. -/
inductive DidResolutionCode where
  | URL
  | SSRF
  | FETCH
  | STATUS
  | CONTENT_TYPE
  | BODY_TOO_LARGE
  | PARSE
  | PICK
deriving DecidableEq, Repr

def DidResolutionCode.text : DidResolutionCode → String
  | .URL => "URL"
  | .SSRF => "SSRF"
  | .FETCH => "FETCH"
  | .STATUS => "STATUS"
  | .CONTENT_TYPE => "CONTENT_TYPE"
  | .BODY_TOO_LARGE => "BODY_TOO_LARGE"
  | .PARSE => "PARSE"
  | .PICK => "PICK"

/-- An error thrown by a fetch: its code when it is a `FederationFetchError`. -/
structure FetchError where
  code : Option FederationFetchCode
  message : String
deriving DecidableEq, Repr

/-- An error thrown by a key resolution: its code when it is a `DidResolutionError`. -/
structure ResolveError where
  code : Option DidResolutionCode
  message : String
deriving DecidableEq, Repr

/-! ## Reading a body -/

def MAX_BODY_BYTES : ℕ := 1024 * 1024

/-- A response as a registry sends it: its status, the finite number that its length header reads
as, the sizes of the chunks of its body, and what `JSON.parse` makes of the decoded body. -/
structure RegistryResponse where
  status : ℕ
  declared : Option ℕ
  chunks : List ℕ
  json : Except JsError Json

/-- Neither the declared nor the real length exceeds the cap. -/
def RegistryResponse.Fits (resp : RegistryResponse) : Prop :=
  (∀ declared ∈ resp.declared, declared ≤ MAX_BODY_BYTES) ∧ resp.chunks.sum ≤ MAX_BODY_BYTES

/-- The loop over the chunks: the total, or the total that exceeds the cap. -/
def readChunks : ℕ → List ℕ → Except ℕ ℕ
  | total, [] => .ok total
  | total, chunk :: chunks =>
    if MAX_BODY_BYTES < total + chunk then .error (total + chunk)
    else readChunks (total + chunk) chunks

/-- Read the body of a response. The declared length is only a reason to give up early. -/
def readCapped (url : String) (resp : RegistryResponse) : Except FetchError FederationResponse :=
  match resp.declared.filter (MAX_BODY_BYTES < ·) with
  | some declared =>
    .error ⟨some .BODY_TOO_LARGE, "'" ++ url ++ "' Content-Length " ++ toString declared ++
      "B exceeds " ++ toString MAX_BODY_BYTES ++ "B cap"⟩
  | none =>
    match readChunks 0 resp.chunks with
    | .error total =>
      .error ⟨some .BODY_TOO_LARGE, "'" ++ url ++ "' body " ++ toString total ++ "B exceeds " ++
        toString MAX_BODY_BYTES ++ "B cap"⟩
    | .ok _ => .ok ⟨resp.status, resp.json⟩

theorem readChunks_eq_ok_iff {total : ℕ} (chunks : List ℕ) (ht : total ≤ MAX_BODY_BYTES) :
    (∃ read, readChunks total chunks = .ok read) ↔ total + chunks.sum ≤ MAX_BODY_BYTES := by
  induction chunks generalizing total with
  | nil => simpa [readChunks] using ht
  | cons chunk chunks ih =>
    rw [readChunks, List.sum_cons, ← Nat.add_assoc]
    split
    · next ho =>
      refine iff_of_false (by simp) fun hs => ?_
      exact absurd (Nat.le_trans (Nat.le_add_right _ _) hs) (Nat.not_le.mpr ho)
    · next hu => exact ih (Nat.not_lt.mp hu)

theorem readCapped_eq (url : String) (resp : RegistryResponse) :
    (resp.Fits ∧ readCapped url resp = .ok ⟨resp.status, resp.json⟩) ∨
      (¬resp.Fits ∧ ∃ err, readCapped url resp = .error err) := by
  have hc := readChunks_eq_ok_iff resp.chunks (Nat.zero_le MAX_BODY_BYTES)
  rw [Nat.zero_add] at hc
  unfold readCapped RegistryResponse.Fits
  cases hd : resp.declared.filter (MAX_BODY_BYTES < ·) with
  | some declared =>
    obtain ⟨hm, ho⟩ := Option.filter_eq_some_iff.mp hd
    refine Or.inr ⟨fun hf => ?_, _, rfl⟩
    exact absurd (hf.1 declared hm) (Nat.not_le.mpr (of_decide_eq_true ho))
  | none =>
    have hu : ∀ declared ∈ resp.declared, declared ≤ MAX_BODY_BYTES := by
      intro declared hm
      have hn := Option.filter_eq_none_iff.mp hd declared hm
      exact Nat.not_lt.mp fun ho => hn (decide_eq_true ho)
    cases hr : readChunks 0 resp.chunks with
    | error total =>
      refine Or.inr ⟨fun hf => ?_, _, rfl⟩
      obtain ⟨read, hok⟩ := hc.mpr hf.2
      rw [hr] at hok
      cases hok
    | ok read => exact Or.inl ⟨⟨hu, hc.mp ⟨read, hr⟩⟩, rfl⟩

end AcdpControlPlane
