import AcdpControlPlane.Common.Js

/-!
# Hashes on the wire

A SHA-256 digest travels as `sha256:` and 64 lower-case hex digits (`WIRE_HASH_RE`), and
`wireHashToBuf` decodes it. The decoder accepts exactly the strings `Digest.toWire` writes, so a
digest has one spelling.
-/

namespace AcdpControlPlane

open List

structure Digest where
  bytes : List UInt8
  length_bytes : bytes.length = 32
deriving DecidableEq

namespace Digest

def replicate (b : UInt8) : Digest := ⟨List.replicate 32 b, by simp⟩

instance : Inhabited Digest := ⟨replicate 0⟩

end Digest

/-! ## Hex -/

/-- The lower-case digit of `d`. -/
def hexDigit (d : Fin 16) : Char := "0123456789abcdef".toList.getD d '0'

def hexValue? (c : Char) : Option (Fin 16) := (List.finRange 16).find? fun d => hexDigit d == c

@[simp] theorem hexValue?_hexDigit (d : Fin 16) : hexValue? (hexDigit d) = some d := by
  revert d
  decide

theorem hexDigit_of_hexValue? {c : Char} {d : Fin 16} (hc : hexValue? c = some d) : hexDigit d = c := by
  have := find?_some hc
  simpa using this

def hexByte (b : UInt8) : List Char :=
  [hexDigit ⟨b.toNat / 16, by have := b.toNat_lt; omega⟩, hexDigit ⟨b.toNat % 16, by omega⟩]

/-- The digits of a byte string: `buf.toString('hex')`. -/
def toHex (bytes : List UInt8) : List Char := bytes.flatMap hexByte

/-- The bytes of pairs of lower-case hex digits. -/
def fromHex? : List Char → Option (List UInt8)
  | [] => some []
  | [_] => none
  | a :: b :: cs =>
    match hexValue? a, hexValue? b, fromHex? cs with
    | some x, some y, some bytes => some (UInt8.ofNat (16 * x + y) :: bytes)
    | _, _, _ => none

theorem length_toHex (bytes : List UInt8) : (toHex bytes).length = 2 * bytes.length := by
  induction bytes with
  | nil => rfl
  | cons b bytes ih =>
    simp only [toHex, flatMap_cons, length_append, length_cons] at ih ⊢
    simp only [hexByte, length_cons, length_nil]
    omega

@[simp] theorem fromHex?_toHex (bytes : List UInt8) : fromHex? (toHex bytes) = some bytes := by
  induction bytes with
  | nil => rfl
  | cons b bytes ih =>
    have hb : 16 * (b.toNat / 16) + b.toNat % 16 = b.toNat := by omega
    simp only [toHex, flatMap_cons, hexByte, cons_append, nil_append, fromHex?,
      hexValue?_hexDigit] at ih ⊢
    rw [ih]
    simp [hb]

theorem toHex_of_fromHex? {cs : List Char} {bytes : List UInt8} (hcs : fromHex? cs = some bytes) :
    toHex bytes = cs := by
  fun_induction fromHex? cs generalizing bytes with
  | case1 =>
    cases hcs
    rfl
  | case2 => cases hcs
  | case3 a b cs x y bytes' hrest hb ha ih =>
    cases hcs
    have hn : (UInt8.ofNat (16 * x + y)).toNat = 16 * x + y := by
      simp only [UInt8.toNat_ofNat']
      omega
    simp only [toHex, flatMap_cons] at ih ⊢
    rw [ih hrest, hexByte]
    simp only [hn]
    have hx : (16 * x.val + y.val) / 16 = x.val := by omega
    have hy : (16 * x.val + y.val) % 16 = y.val := by omega
    simp only [hx, hy, Fin.eta, hexDigit_of_hexValue? ha, hexDigit_of_hexValue? hb]
    rfl
  | case4 => cases hcs

/-! ## The wire form -/

def wirePrefix : String := "sha256:"

def Digest.toWire (d : Digest) : String := wirePrefix ++ String.ofList (toHex d.bytes)

/-- The test `/^sha256:[0-9a-f]{64}$/`. -/
def isWireHash (wire : String) : Bool :=
  startsWith wire wirePrefix &&
    let hex := wire.toList.drop wirePrefix.toList.length
    hex.length == 64 && hex.all fun c => (hexValue? c).isSome

/-- Decode a wire hash to its 32 bytes; `none` for anything else. -/
def wireHashToBuf (wire : String) : Option Digest :=
  if isWireHash wire then
    match fromHex? (wire.toList.drop wirePrefix.toList.length) with
    | some bytes => if hlen : bytes.length = 32 then some ⟨bytes, hlen⟩ else none
    | none => none
  else none

theorem toWire_toList (d : Digest) : d.toWire.toList = wirePrefix.toList ++ toHex d.bytes := by
  simp [Digest.toWire]

theorem isSome_hexValue?_of_mem_toHex {bytes : List UInt8} {c : Char} (hc : c ∈ toHex bytes) :
    (hexValue? c).isSome := by
  obtain ⟨b, -, hb⟩ := mem_flatMap.mp hc
  simp only [hexByte, mem_cons, not_mem_nil, or_false] at hb
  rcases hb with rfl | rfl <;> simp

@[simp] theorem isWireHash_toWire (d : Digest) : isWireHash d.toWire = true := by
  have hall : ∀ c ∈ toHex d.bytes, (hexValue? c).isSome := fun c =>
    isSome_hexValue?_of_mem_toHex
  simp only [isWireHash, startsWith, toWire_toList, drop_left, isPrefixOf_iff_prefix,
    Bool.and_eq_true, prefix_append, beq_iff_eq, all_eq_true, length_toHex, d.length_bytes]
  exact ⟨trivial, trivial, hall⟩

@[simp] theorem wireHashToBuf_toWire (d : Digest) : wireHashToBuf d.toWire = some d := by
  rw [wireHashToBuf, if_pos (isWireHash_toWire d), toWire_toList, drop_left, fromHex?_toHex]
  simp only [d.length_bytes, dite_true]

theorem eq_toWire_of_wireHashToBuf {wire : String} {d : Digest}
    (hw : wireHashToBuf wire = some d) : wire = d.toWire := by
  unfold wireHashToBuf at hw
  split at hw
  · next hf =>
    split at hw
    · next bytes hb =>
      split at hw
      · cases hw
        have hp : wirePrefix.toList <+: wire.toList := by
          simp only [isWireHash, startsWith, Bool.and_eq_true, isPrefixOf_iff_prefix] at hf
          exact hf.1
        rw [← String.toList_inj, toWire_toList, toHex_of_fromHex? hb]
        exact prefix_iff_eq_append.mp hp |>.symm
      · cases hw
    · cases hw
  · cases hw

theorem wireHashToBuf_eq_some {wire : String} {d : Digest} :
    wireHashToBuf wire = some d ↔ wire = d.toWire :=
  ⟨eq_toWire_of_wireHashToBuf, fun h => h ▸ wireHashToBuf_toWire d⟩

theorem toWire_injective : Function.Injective Digest.toWire := fun d e h => by
  have := wireHashToBuf_toWire d
  rw [h, wireHashToBuf_toWire] at this
  exact (Option.some.inj this).symm

theorem mapM_wireHashToBuf_eq_some {path : List String} {ds : List Digest} :
    path.mapM wireHashToBuf = some ds ↔ path = ds.map Digest.toWire := by
  induction path generalizing ds with
  | nil => cases ds <;> simp
  | cons wire path ih =>
    rw [mapM_cons]
    constructor
    · intro hs
      simp only [Option.bind_eq_bind, Option.bind_eq_some_iff, Option.pure_def,
        Option.some.injEq] at hs
      obtain ⟨d, hd, ds', hd', rfl⟩ := hs
      rw [map_cons, ← wireHashToBuf_eq_some.mp hd, ← ih.mp hd']
    · intro heq
      cases ds with
      | nil => simp at heq
      | cons d ds =>
        simp only [map_cons, cons.injEq] at heq
        rw [wireHashToBuf_eq_some.mpr heq.1, ih.mpr heq.2]
        rfl

end AcdpControlPlane
