import AcdpControlPlane.Log.Wire

/-!
# Ed25519 multibase

Encoding and decoding of Ed25519 public keys in base58btc with the multicodec prefix `0xed 0x01`,
the form of a `did:key`, as `src/common/multibase.ts` computes it, and the base64 text in which
keys are passed on.
-/

namespace AcdpControlPlane

def BASE58_ALPHABET : List Char :=
  "123456789ABCDEFGHJKLMNPQRSTUVWXYZabcdefghijkmnopqrstuvwxyz".toList

def base58Index (c : Char) : Option ℕ := BASE58_ALPHABET.idxOf? c

def ED25519_MULTICODEC_PREFIX : List UInt8 := [0xed, 0x01]

def P256_MULTICODEC_PREFIX : List UInt8 := [0x80, 0x24]

def ED25519_RAW_KEY_LENGTH : ℕ := 32

/-- A failed decode: its reason, and the algorithm when it is a known one without support. -/
structure MultibaseError where
  reason : String
  unsupportedAlgorithm : Option String
deriving DecidableEq, Repr

/-! ## base58btc -/

/-- The number a buffer spells, big-endian: `BigInt('0x' + buf.toString('hex'))`. -/
def bufToNat (buf : List UInt8) : ℕ := buf.foldl (fun x b => 256 * x + b.toNat) 0

/-- The base58 digits of a number, the most significant first; none for zero. -/
def base58Digits (x : ℕ) : List Char :=
  if _h : x = 0 then []
  else base58Digits (x / 58) ++ (BASE58_ALPHABET[x % 58]?).toList
termination_by x
decreasing_by omega

/-- Encode a buffer. Leading zero bytes are leading `1`s. -/
def base58btcEncode (buf : List UInt8) : String :=
  String.ofList (((buf.takeWhile (· == 0)).map fun _ => '1') ++ base58Digits (bufToNat buf))

/-- Decode a text over the alphabet: the bytes of the number after a zero byte for each leading
`1`. The hex text is padded to an even length before it is compared with `0`. -/
def base58btcDecode (body : String) : List UInt8 :=
  let x := body.toList.foldl (fun x c => x * 58 + (base58Index c).getD 0) 0
  let hex := Nat.toDigits 16 x
  let hex := if hex.length % 2 = 1 then '0' :: hex else hex
  let decoded := if hex = ['0'] then [] else (fromHex? hex).getD []
  ((body.toList.takeWhile (· == '1')).map fun _ => 0) ++ decoded

/-! ## Keys -/

/-- Encode a raw public key as a `z`-prefixed multibase text. -/
def encodeEd25519Multibase (publicKey : List UInt8) : String :=
  "z" ++ base58btcEncode (ED25519_MULTICODEC_PREFIX ++ publicKey)

/-- Decode a multibase text, or a `did:key` identifier, to the raw public key. -/
def decodeEd25519Multibase (input : String) : Except MultibaseError (List UInt8) :=
  let withoutFragment := stripFragment input
  let multibase :=
    if startsWith withoutFragment "did:key:" then String.ofList (withoutFragment.toList.drop 8)
    else withoutFragment
  if !startsWith multibase "z" then
    .error ⟨"not a base58btc multibase value (missing 'z' prefix): '" ++ input ++ "'", none⟩
  else
    let body := String.ofList (multibase.toList.drop 1)
    if body.toList.length = 0 then .error ⟨"empty multibase value: '" ++ input ++ "'", none⟩
    else
      match body.toList.find? fun c => (base58Index c).isNone with
      | some c =>
        .error ⟨"invalid base58 character '" ++ String.ofList [c] ++ "' in multibase value: '" ++
          input ++ "'", none⟩
      | none =>
        let decoded := base58btcDecode body
        let pre := decoded.take ED25519_MULTICODEC_PREFIX.length
        let publicKey := decoded.drop ED25519_MULTICODEC_PREFIX.length
        if decoded.length < ED25519_MULTICODEC_PREFIX.length then
          .error ⟨"multibase value too short to carry a multicodec prefix: '" ++ input ++ "'", none⟩
        else if pre ≠ ED25519_MULTICODEC_PREFIX then
          .error ⟨"unsupported key algorithm (multicodec prefix 0x" ++ String.ofList (toHex pre) ++
            ", want 0xed01/Ed25519): '" ++ input ++ "'",
            if pre = P256_MULTICODEC_PREFIX then some "ecdsa-p256" else none⟩
        else if publicKey.length ≠ ED25519_RAW_KEY_LENGTH then
          .error ⟨"Ed25519 key wrong length after multicodec prefix (got " ++
            toString publicKey.length ++ ", want " ++ toString ED25519_RAW_KEY_LENGTH ++ "): '" ++
            input ++ "'", none⟩
        else .ok publicKey

/-! ## base64 -/

def base64Alphabet : List Char :=
  "ABCDEFGHIJKLMNOPQRSTUVWXYZabcdefghijklmnopqrstuvwxyz0123456789+/".toList

def base64Digit (v : ℕ) : Char := (base64Alphabet[v % 64]?).getD '='

def base64Chars : List UInt8 → List Char
  | [] => []
  | [a] =>
    let v := a.toNat * 65536
    [base64Digit (v / 262144), base64Digit (v / 4096), '=', '=']
  | [a, b] =>
    let v := a.toNat * 65536 + b.toNat * 256
    [base64Digit (v / 262144), base64Digit (v / 4096), base64Digit (v / 64), '=']
  | a :: b :: c :: rest =>
    let v := a.toNat * 65536 + b.toNat * 256 + c.toNat
    base64Digit (v / 262144) :: base64Digit (v / 4096) :: base64Digit (v / 64) ::
      base64Digit v :: base64Chars rest

/-- The text `buf.toString('base64')`. -/
def toBase64 (buf : List UInt8) : String := String.ofList (base64Chars buf)

end AcdpControlPlane
