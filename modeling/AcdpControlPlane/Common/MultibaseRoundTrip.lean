import AcdpControlPlane.Common.Multibase
import AcdpControlPlane.Common.Radix

/-!
# Spellings of keys

base58btc rewrites a buffer in base 58 and keeps its leading zeros, and the decoder goes by way of the
hex text of the number, padded to an even length. The padded text of zero is `00` and not `0`, so zero is
given a byte that no digit stands for: buffers of zeros come back longer. A multibase key never is one,
because of its multicodec prefix, and has one spelling.

## Main results

* `base58btc_roundTrip_iff`, `ed25519Multibase_bijective`
-/

namespace AcdpControlPlane

open List

def base58Char (d : ℕ) : Char := BASE58_ALPHABET.getD d '1'

def base58Value (c : Char) : ℕ := (base58Index c).getD 0

theorem base58_of_mem {c : Char} (hc : c ∈ BASE58_ALPHABET) :
    base58Value c < 58 ∧ base58Char (base58Value c) = c ∧ (base58Value c = 0 ↔ c = '1') := by
  have h : BASE58_ALPHABET.all (fun c => base58Value c < 58 ∧ base58Char (base58Value c) = c ∧
      (base58Value c = 0 ↔ c = '1')) = true := by decide
  simpa using all_eq_true.mp h c hc

theorem mem_of_base58Index {c : Char} : (base58Index c).isNone = false ↔ c ∈ BASE58_ALPHABET := by
  rw [base58Index, Option.isNone_eq_false_iff, isSome_idxOf?]

theorem base58Digits_eq (x : ℕ) : base58Digits x = (Radix.digits 58 x).map base58Char := by
  have hc : ∀ d : Fin 58, (BASE58_ALPHABET[d.val]?).toList = [base58Char d] := by decide
  induction x using Nat.strong_induction_on with
  | _ x ih =>
    rw [base58Digits]
    split
    · next hx => simp [hx, Radix.digits]
    · next hx =>
      have hd := @Radix.digits_of_pos 58 x (by decide) (by omega)
      rw [ih (x / 58) (by omega), hd, map_append]
      exact congrArg _ (hc ⟨x % 58, Nat.mod_lt x (by decide)⟩)

theorem bufToNat_eq (buf : List UInt8) : bufToNat buf = Radix.value 256 (buf.map UInt8.toNat) := by
  rw [bufToNat, Radix.value, foldl_map]
  simp only [Nat.mul_comm]

theorem base58btcEncode_eq (buf : List UInt8) : base58btcEncode buf =
    String.ofList ((Radix.rewrite 256 58 (buf.map UInt8.toNat)).map base58Char) := by
  have hz : ∀ b ∈ buf, ((b == 0) = true ↔ b.toNat = 0) := by
    intro b _
    rw [beq_iff_eq, ← UInt8.toNat_inj]
    rfl
  rw [base58btcEncode, base58Digits_eq, bufToNat_eq, Radix.rewrite, map_append,
    ← Radix.map_takeWhile hz]
  rfl

theorem hexByte_ofNat (x : ℕ) :
    hexByte (UInt8.ofNat x) = [Nat.digitChar (x / 16 % 16), Nat.digitChar (x % 16)] := by
  have hall : ∀ d : Fin 16, hexDigit d = Nat.digitChar d := by decide
  have hhigh : x % 256 / 16 = x / 16 % 16 := by omega
  have hlow : x % 256 % 16 = x % 16 := by omega
  simp [hexByte, hall, hhigh, hlow]

theorem toHex_digits {x : ℕ} (hx : 0 < x) : toHex ((Radix.digits 256 x).map UInt8.ofNat) =
    toHex ((Radix.digits 256 (x / 256)).map UInt8.ofNat) ++
      [Nat.digitChar (x / 16 % 16), Nat.digitChar (x % 16)] := by
  have hhigh : x % 256 / 16 % 16 = x / 16 % 16 := by omega
  have hlow : x % 256 % 16 = x % 16 := by omega
  rw [Radix.digits_of_pos (by decide) hx, map_append, toHex, flatMap_append,
    map_singleton, flatMap_singleton, hexByte_ofNat, hhigh, hlow]
  rfl

/-- The hex text of a number, padded to an even length, is that of its bytes. -/
theorem padded_toDigits {x : ℕ} (hx : 0 < x) :
    (if (Nat.toDigits 16 x).length % 2 = 1 then '0' :: Nat.toDigits 16 x else Nat.toDigits 16 x) =
      toHex ((Radix.digits 256 x).map UInt8.ofNat) := by
  induction x using Nat.strong_induction_on with
  | _ x ih =>
    rw [toHex_digits hx]
    by_cases ho : x < 16
    · rw [Nat.toDigits_of_lt_base ho, Nat.div_eq_of_lt ho, Nat.mod_eq_of_lt ho,
        Nat.div_eq_of_lt (by omega : x < 256)]
      rfl
    rw [Nat.toDigits_of_base_le (by decide) (Nat.not_lt.mp ho)]
    by_cases ht : x < 256
    · rw [Nat.toDigits_of_lt_base (by omega), Nat.div_eq_of_lt ht,
        Nat.mod_eq_of_lt (by omega : x / 16 < 16)]
      simp [toHex, Radix.digits]
    · -- the last two digits are the last byte, and leave the parity as it is
      rw [← ih (x / 256) (by omega) (by omega),
        Nat.toDigits_of_base_le (by decide) (by omega : 16 ≤ x / 16), Nat.div_div_eq_div_mul]
      simp only [append_assoc, length_append, singleton_append, Nat.reduceMul]
      rw [length_cons, length_singleton, Nat.add_mod_right]
      split <;> rfl

/-- A decoded text is the text rewritten in bytes, but the number zero is given a byte of its own. -/
theorem base58btcDecode_eq {body : String} (hb : ∀ c ∈ body.toList, c ∈ BASE58_ALPHABET) :
    base58btcDecode body =
      (Radix.rewrite 58 256 (body.toList.map base58Value)).map UInt8.ofNat ++
        if Radix.value 58 (body.toList.map base58Value) = 0 then [0] else [] := by
  have ho : ∀ c ∈ body.toList, ((c == '1') = true ↔ base58Value c = 0) :=
    fun c hc => by simpa using (base58_of_mem (hb c hc)).2.2.symm
  have hf : body.toList.foldl (fun x c => x * 58 + (base58Index c).getD 0) 0 =
      Radix.value 58 (body.toList.map base58Value) := by
    rw [Radix.value, foldl_map]
    rfl
  simp only [base58btcDecode, hf, Radix.rewrite, map_append, append_assoc]
  rw [← Radix.map_takeWhile ho]
  refine congrArg _ ?_
  by_cases hx : Radix.value 58 (body.toList.map base58Value) = 0
  · rw [hx]
    rfl
  · rw [padded_toDigits (Nat.pos_of_ne_zero hx), fromHex?_toHex, if_neg hx, append_nil, if_neg]
    · rfl
    · intro hz
      have hl := congrArg length hz
      rw [length_toHex, length_singleton] at hl
      omega

theorem base58btcEncode_mem (b : List UInt8) :
    ∀ c ∈ (base58btcEncode b).toList, c ∈ BASE58_ALPHABET := by
  have hc : ∀ d : Fin 58, base58Char d ∈ BASE58_ALPHABET := by decide
  rw [base58btcEncode_eq, String.toList_ofList, forall_mem_map]
  exact fun d hd => hc ⟨d, Radix.rewrite_lt (by decide) d hd⟩

/-- A buffer of zeros comes back with one more. -/
theorem base58btcDecode_base58btcEncode (b : List UInt8) :
    base58btcDecode (base58btcEncode b) = b ++ if ∀ x ∈ b, x = 0 then [0] else [] := by
  have hc : ∀ d : Fin 58, base58Value (base58Char d) = d := by decide
  have hl := @Radix.rewrite_lt 256 58 (b.map UInt8.toNat) (by decide)
  have hb : ∀ d ∈ b.map UInt8.toNat, d < 256 := by simpa using fun x _ => UInt8.toNat_lt x
  have hba : ((Radix.rewrite 256 58 (b.map UInt8.toNat)).map base58Char).map base58Value =
      Radix.rewrite 256 58 (b.map UInt8.toNat) := by
    rw [map_map]
    exact (map_congr_left fun d hd => hc ⟨d, hl d hd⟩).trans (map_id _)
  have hi : b.map (UInt8.ofNat ∘ UInt8.toNat) = b := by simp [Function.comp_def]
  rw [base58btcDecode_eq (base58btcEncode_mem b), base58btcEncode_eq]
  simp only [String.toList_ofList, hba, Radix.value_rewrite]
  rw [Radix.rewrite_rewrite (by decide) (by decide) hb, map_map]
  simp only [hi, Radix.value_eq_zero_iff (by decide : 1 < 256) hb, forall_mem_map,
    ← UInt8.toNat_inj, UInt8.toNat_zero]

theorem base58btcEncode_base58btcDecode {s : String} (hs : ∀ c ∈ s.toList, c ∈ BASE58_ALPHABET) :
    base58btcEncode (base58btcDecode s) = s ++ if ∀ c ∈ s.toList, c = '1' then "1" else "" := by
  have hl : ∀ d ∈ s.toList.map base58Value, d < 58 := by
    simpa using fun c hc => (base58_of_mem (hs c hc)).1
  have ho : Radix.value 58 (s.toList.map base58Value) = 0 ↔ ∀ c ∈ s.toList, c = '1' := by
    rw [Radix.value_eq_zero_iff (by decide) hl, forall_mem_map]
    exact forall₂_congr fun c hc => (base58_of_mem (hs c hc)).2.2
  have hb : (s.toList.map base58Value).map base58Char = s.toList := by
    rw [map_map]
    exact (map_congr_left fun c hc => (base58_of_mem (hs c hc)).2.1).trans (map_id _)
  have hby : ((Radix.rewrite 58 256 (s.toList.map base58Value)).map UInt8.ofNat).map UInt8.toNat =
      Radix.rewrite 58 256 (s.toList.map base58Value) := by
    rw [map_map]
    refine (map_congr_left fun d hd => ?_).trans (map_id _)
    exact UInt8.toNat_ofNat_of_lt' (Radix.rewrite_lt (by decide) d hd)
  rw [base58btcEncode_eq, base58btcDecode_eq hs, map_append, hby, ← String.toList_inj]
  by_cases hz : Radix.value 58 (s.toList.map base58Value) = 0
  · have hds := (Radix.value_eq_zero_iff (by decide) hl).mp hz
    rw [if_pos hz, if_pos (ho.mp hz), Radix.rewrite_zeros hds, Radix.rewrite_zeros]
    · simp [hb]
      rfl
    · exact forall_mem_append.mpr ⟨hds, by simp⟩
  · rw [if_neg hz, if_neg (mt ho.mpr hz), map_nil, append_nil,
      Radix.rewrite_rewrite (by decide) (by decide) hl, hb]
    simp

theorem eq_base58btcEncode {s : String} {x : UInt8} (hs : ∀ c ∈ s.toList, c ∈ BASE58_ALPHABET)
    (hx : x ∈ base58btcDecode s) (hn : x ≠ 0) : s = base58btcEncode (base58btcDecode s) := by
  rw [base58btcEncode_base58btcDecode hs, if_neg, String.append_empty]
  intro ho
  have hds : ∀ d ∈ s.toList.map base58Value, d = 0 :=
    forall_mem_map.mpr fun c hc => (base58_of_mem (hs c hc)).2.2.mpr (ho c hc)
  rw [base58btcDecode_eq hs, Radix.rewrite_zeros hds, Radix.value_zeros hds, if_pos rfl] at hx
  rcases mem_append.mp hx with hx | hx
  · obtain ⟨d, hd, rfl⟩ := mem_map.mp hx
    rw [hds d hd] at hn
    exact hn rfl
  · exact hn (mem_singleton.mp hx)

/-- **The round trips of base58btc** hold for all but zeros: a buffer comes back if and only if it has
another byte, and a text if and only if it has another character than `1`. -/
theorem base58btc_roundTrip_iff (b : List UInt8) (s : String) :
    (base58btcDecode (base58btcEncode b) = b ↔ ∃ x ∈ b, x ≠ 0) ∧
    (s ≠ "" → (∀ c ∈ s.toList, c ∈ BASE58_ALPHABET) →
      (base58btcEncode (base58btcDecode s) = s ↔ ∃ c ∈ s.toList, c ≠ '1')) := by
  constructor
  · rw [base58btcDecode_base58btcEncode]
    split
    · next hz => simpa using hz
    · next ho => simpa using ho
  · intro _ hs
    rw [base58btcEncode_base58btcDecode hs, ← String.toList_inj, String.toList_append]
    split
    · next hon => simpa using hon
    · next ho => simpa using ho

/-- A zero byte comes back as two, and so does its text. -/
theorem base58btc_zero :
    base58btcDecode (base58btcEncode [0]) = [0, 0] ∧ base58btcEncode (base58btcDecode "1") = "11" := by
  have h1 : '1' ∈ BASE58_ALPHABET := by decide
  rw [base58btcDecode_base58btcEncode, base58btcEncode_base58btcDecode (by simpa using h1)]
  simp

/-! ## Keys -/

/-- The multibase value of an identifier: without its fragment, and without `did:key:`. -/
def multibaseOf (input : String) : String :=
  if startsWith (stripFragment input) "did:key:" then
    String.ofList ((stripFragment input).toList.drop 8)
  else stripFragment input

theorem base58btcDecode_prefixed (k : List UInt8) :
    base58btcDecode (base58btcEncode (ED25519_MULTICODEC_PREFIX ++ k)) =
      ED25519_MULTICODEC_PREFIX ++ k := by
  rw [base58btcDecode_base58btcEncode, if_neg, append_nil]
  intro hz
  exact absurd (hz 0xed (by simp [ED25519_MULTICODEC_PREFIX])) (by decide)

theorem decodeEd25519Multibase_eq_ok_iff {input : String} {k : List UInt8} :
    decodeEd25519Multibase input = .ok k ↔
      k.length = 32 ∧ multibaseOf input = encodeEd25519Multibase k := by
  have hf : ∀ body : String, (body.toList.find? fun c => (base58Index c).isNone) = none ↔
      ∀ c ∈ body.toList, c ∈ BASE58_ALPHABET := by
    intro body
    rw [find?_eq_none]
    exact forall₂_congr fun c _ => by rw [Bool.not_eq_true, mem_of_base58Index]
  have ho : (if startsWith (stripFragment input) "did:key:" then
      String.ofList ((stripFragment input).toList.drop 8) else stripFragment input) =
        multibaseOf input := rfl
  simp only [decodeEd25519Multibase, ho]
  generalize multibaseOf input = multibase
  constructor
  · intro hd
    split at hd
    · cases hd
    next hz =>
    split at hd
    · cases hd
    split at hd
    · cases hd
    next hc =>
    split at hd
    · cases hd
    split at hd
    · cases hd
    next hp =>
    split at hd
    · cases hd
    next hl =>
    cases hd
    rw [Bool.not_eq_true, Bool.not_eq_false'] at hz
    obtain ⟨body, hm⟩ := isPrefixOf_iff_prefix.mp hz
    obtain rfl : "z" ++ String.ofList body = multibase := by
      rw [← String.toList_inj, ← hm]
      simp
    have hdr : (("z" ++ String.ofList body).toList).drop 1 = body := by simp
    rw [hdr] at hc hp hl ⊢
    have hde := take_append_drop
      ED25519_MULTICODEC_PREFIX.length (base58btcDecode (String.ofList body))
    rw [not_not.mp hp] at hde
    have hb := eq_base58btcEncode ((hf _).mp hc)
      (hde ▸ mem_append_left _ mem_cons_self) (by decide : (0xed : UInt8) ≠ 0)
    rw [← hde] at hb
    exact ⟨not_not.mp hl, congrArg _ hb⟩
  · rintro ⟨hl, rfl⟩
    have hb : String.ofList ((encodeEd25519Multibase k).toList.drop 1) =
        base58btcEncode (ED25519_MULTICODEC_PREFIX ++ k) := by
      simp [encodeEd25519Multibase]
    have hc := (hf _).mpr (base58btcEncode_mem (ED25519_MULTICODEC_PREFIX ++ k))
    have hd := base58btcDecode_prefixed k
    have hz : startsWith (encodeEd25519Multibase k) "z" = true := by
      simp [startsWith, encodeEd25519Multibase]
    have hne : (base58btcEncode (ED25519_MULTICODEC_PREFIX ++ k)).toList.length ≠ 0 := by
      intro hn
      rw [String.toList_eq_nil_iff.mp (length_eq_zero_iff.mp hn)] at hd
      have hem : base58btcDecode "" = [0] := by decide
      cases hem.symm.trans hd
    simp only [hb, hz, hne, hc, hd, if_false, Bool.not_true, Bool.false_eq_true]
    simp [ED25519_MULTICODEC_PREFIX, ED25519_RAW_KEY_LENGTH, hl]

/-- What may follow an identifier: nothing, or a fragment. -/
def IsFragment (rest : String) : Prop := rest = "" ∨ ∃ fragment, rest = "#" ++ fragment

theorem stripFragment_append {s rest : String} (hs : '#' ∉ s.toList) (hr : IsFragment rest) :
    stripFragment (s ++ rest) = s := by
  have hp : ∀ c ∈ s.toList, decide (c ≠ '#') = true :=
    fun c hc => decide_eq_true fun heq => hs (heq ▸ hc)
  rw [stripFragment, String.toList_append, takeWhile_append_of_pos hp]
  rcases hr with rfl | ⟨fragment, rfl⟩
  · simp
  · simp

theorem encodeEd25519Multibase_mem (k : List UInt8) :
    ∀ c ∈ (encodeEd25519Multibase k).toList, c ∈ BASE58_ALPHABET := by
  rw [encodeEd25519Multibase, String.toList_append]
  have hz : 'z' ∈ BASE58_ALPHABET := by decide
  exact forall_mem_append.mpr ⟨by simpa using hz, base58btcEncode_mem _⟩

/-- **Multibase spellings of keys are unique.** -/
theorem ed25519Multibase_bijective :
    (∀ k : List UInt8, k.length = 32 → ∀ rest, IsFragment rest →
      decodeEd25519Multibase (encodeEd25519Multibase k ++ rest) = .ok k ∧
        decodeEd25519Multibase ("did:key:" ++ encodeEd25519Multibase k ++ rest) = .ok k) ∧
    ∀ (s : String) (k : List UInt8), '#' ∉ s.toList → startsWith s "did:key:" = false →
      decodeEd25519Multibase s = .ok k → s = encodeEd25519Multibase k := by
  constructor
  · intro k hl rest hr
    have hh : '#' ∉ (encodeEd25519Multibase k).toList :=
      fun hme => absurd (encodeEd25519Multibase_mem k _ hme) (by decide)
    have hk : '#' ∉ ("did:key:" ++ encodeEd25519Multibase k).toList := by
      rw [String.toList_append, mem_append, not_or]
      exact ⟨by decide, hh⟩
    simp only [decodeEd25519Multibase_eq_ok_iff, multibaseOf, stripFragment_append hh hr,
      stripFragment_append hk hr]
    have hb : startsWith (encodeEd25519Multibase k) "did:key:" = false := by
      rw [startsWith, encodeEd25519Multibase, String.toList_append]
      rfl
    have hf : startsWith ("did:key:" ++ encodeEd25519Multibase k) "did:key:" = true := by
      simp [startsWith]
    simp [hl, hb, hf]
  · intro s k hh hk hd
    have hm := (decodeEd25519Multibase_eq_ok_iff.mp hd).2
    rwa [multibaseOf, ← s.append_empty, stripFragment_append hh (Or.inl rfl), if_neg (by simp [hk])]
      at hm

end AcdpControlPlane
