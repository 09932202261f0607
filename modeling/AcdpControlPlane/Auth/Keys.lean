import AcdpControlPlane.Common.DidAuthority
import AcdpControlPlane.Common.Throwing

/-!
# The keys of agents

The two places a verifying key of an agent comes from: the operator's directory of pinned keys
(`src/auth/pinned-keys.service.ts`), and the agent's `did:web` document
(`src/auth/did-web/did-web-resolver.service.ts`). Signatures are verified by the SDK, which throws on
anything but a valid one.
-/

namespace AcdpControlPlane

inductive SignatureAlgorithm where
  | ed25519
  | ecdsaP256
deriving DecidableEq, Repr

namespace SignatureAlgorithm

def text : SignatureAlgorithm → String
  | ed25519 => "ed25519"
  | ecdsaP256 => "ecdsa-p256"

def ofText? (name : String) : Option SignatureAlgorithm :=
  if name = "ed25519" then some ed25519
  else if name = "ecdsa-p256" then some ecdsaP256
  else none

end SignatureAlgorithm

/-! ## Pinned keys -/

structure PinnedKey where
  agentDid : String
  algorithm : SignatureAlgorithm
  rawB64 : String
  validFromSec : Option Int
  validUntilSec : Option Int
deriving DecidableEq, Repr

abbrev PinnedKeys := String → Option PinnedKey

/-- The whole seconds of a time in microseconds: `Math.floor(Date.now() / 1000)`. -/
def nowSeconds (now : Int) : Int := now / 1000000

def PinnedKey.InWindow (key : PinnedKey) (now : Int) : Prop :=
  (∀ validFrom ∈ key.validFromSec, validFrom ≤ nowSeconds now) ∧
    ∀ validUntil ∈ key.validUntilSec, nowSeconds now < validUntil

instance (key : PinnedKey) (now : Int) : Decidable (key.InWindow now) :=
  inferInstanceAs (Decidable (_ ∧ _))

def PinnedKeys.get (keys : PinnedKeys) (agentDid : String) (now : Int) : Option PinnedKey :=
  match keys agentDid with
  | none => none
  | some key => if key.InWindow now then some key else none

theorem PinnedKeys.get_eq_some_iff {keys : PinnedKeys} {agentDid : String} {now : Int} {key : PinnedKey} :
    keys.get agentDid now = some key ↔ keys agentDid = some key ∧ key.InWindow now := by
  unfold get
  cases keys agentDid with
  | none => simp
  | some pinned =>
    simp only [Option.ite_none_right_eq_some, Option.some.injEq]
    constructor
    · rintro ⟨hw, rfl⟩
      exact ⟨rfl, hw⟩
    · rintro ⟨rfl, hw⟩
      exact ⟨hw, rfl⟩

theorem PinnedKeys.get_eq_none_iff {keys : PinnedKeys} {agentDid : String} {now : Int} :
    keys.get agentDid now = none ↔ ∀ key ∈ keys agentDid, ¬ key.InWindow now := by
  unfold get
  cases keys agentDid with
  | none => simp
  | some pinned => simp

/-! ## Documents -/

structure ResolvedKey where
  keyId : String
  algorithm : SignatureAlgorithm
  publicKeyB64 : String
deriving DecidableEq, Repr

structure AuthSdk (Document : Type) where
  webToUrl : String → Except NativeError String
  keyForAlgorithm : Document → String → SignatureAlgorithm → Except NativeError ResolvedKey
  verifySignature : String → String → String → Except NativeError Bool
  verifySignatureP256 : String → String → String → Except NativeError Bool

/-- What a resolution meets outside: the verdict of the SSRF policy on a URL, and the document of a
DID, from the cache or fetched from its URL. -/
structure ResolverEnv (Document : Type) where
  checkUrl : String → Except String Unit
  resolveDocument : String → String → Except String Document

def resolveKey {Document : Type} (sdk : AuthSdk Document) (env : ResolverEnv Document)
    (didUrl : String) (requestedAlg : SignatureAlgorithm) : Except String ResolvedKey := do
  let did := stripFragment didUrl
  let url ← (sdk.webToUrl did).mapError errMsg
  env.checkUrl url
  let doc ← env.resolveDocument did url
  (sdk.keyForAlgorithm doc didUrl requestedAlg).mapError errMsg

theorem document_of_resolveKey {Document : Type} {sdk : AuthSdk Document}
    {env : ResolverEnv Document} {didUrl : String} {algorithm : SignatureAlgorithm}
    {key : ResolvedKey} (h : resolveKey sdk env didUrl algorithm = .ok key) :
    ∃ url doc, env.resolveDocument (stripFragment didUrl) url = .ok doc ∧
      sdk.keyForAlgorithm doc didUrl algorithm = .ok key := by
  obtain ⟨url, -, h⟩ := Throwing.bind_eq_ok.mp h
  obtain ⟨-, -, h⟩ := Throwing.bind_eq_ok.mp h
  obtain ⟨doc, hd, h⟩ := Throwing.bind_eq_ok.mp h
  exact ⟨url, doc, hd, Throwing.mapError_eq_ok.mp h⟩

/-! ## Signatures -/

/-- Whether a signature is valid. The binding throws where it is not. -/
def verifySignatureB64 {Document : Type} (sdk : AuthSdk Document) (algorithm : SignatureAlgorithm)
    (publicKeyB64 message signatureB64 : String) : Bool :=
  let reply := match algorithm with
    | .ed25519 => sdk.verifySignature publicKeyB64 signatureB64 message
    | .ecdsaP256 => sdk.verifySignatureP256 publicKeyB64 signatureB64 message
  match reply with
  | .ok valid => valid
  | .error _ => false

end AcdpControlPlane
