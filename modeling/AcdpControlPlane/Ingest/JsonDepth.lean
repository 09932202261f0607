import AcdpControlPlane.Common.JsonText
import AcdpControlPlane.Ingest.Admission

/-!
# The nesting of a body

`exceedsJsonDepth` of `src/ingest/ingest.service.ts` scans a body before `JSON.parse` reads it. On what
the lexer accepts it counts the brackets among the tokens, and on a valid text no bracket is closed
that is not open.
-/

namespace AcdpControlPlane

open JsonText

/-! ## Brackets among tokens -/

def JsonText.Token.delta : Token → ℤ
  | .openBrace | .openBracket => 1
  | .closeBrace | .closeBracket => -1
  | _ => 0

/-- The most brackets that are open at once. -/
def JsonText.nesting : List Token → ℤ
  | [] => 0
  | t :: ts => max 0 (t.delta + nesting ts)

/-- The scan, of tokens. -/
def JsonText.scanTokens (maxDepth : ℕ) : List Token → ℕ → Bool
  | [], _ => false
  | t :: ts, k =>
    let k' := (k + t.delta).toNat
    0 < t.delta && maxDepth < k' || scanTokens maxDepth ts k'

/-- The containers the reader is in. -/
def JsonText.depth : Phase × List Frame → ℕ
  | (.value, stack) | (.complete _, stack) => stack.length
  | (_, stack) => stack.length + 1

theorem depth_step {s s' : Phase × List Frame} {t : Token} (h : step s t = some s') :
    (depth s' : ℤ) = depth s + t.delta := by
  rcases s with ⟨_ | _ | _ | _ | _ | _, _ | ⟨_ | _, _⟩⟩ <;> cases t <;>
    simp [step, startValue, startName] at h <;> subst h <;> simp [depth, Token.delta]

variable {number : String → JsNumber} {d k : ℕ} {c : Char} {cs : List Char} {ts : List Token}

theorem nesting_le_of_scanTokens (hk : k ≤ d) (h : scanTokens d ts k = false) :
    k + nesting ts ≤ d := by
  induction ts generalizing k with
  | nil => simpa [nesting] using hk
  | cons t ts ih =>
    simp only [scanTokens, Bool.or_eq_false_iff, Bool.and_eq_false_iff, decide_eq_false_iff_not] at h
    have hn := ih (by omega) h.2
    rw [nesting]
    omega

theorem lt_nesting_of_scanTokens {s : Phase × List Frame} {v : Json} (hr : read ts s = some v)
    (h : scanTokens d ts (depth s) = true) : d < depth s + nesting ts := by
  induction ts generalizing s with
  | nil => cases h
  | cons t ts ih =>
    obtain ⟨s', hs, hr⟩ := Option.bind_eq_some_iff.mp hr
    have hd := depth_step hs
    have hn : 0 ≤ nesting ts := by cases ts <;> simp [nesting]
    simp only [scanTokens, ← hd, Int.toNat_natCast, Bool.or_eq_true, Bool.and_eq_true,
      decide_eq_true_eq] at h
    rw [nesting]
    rcases h with h | h
    · omega
    · have hlt := ih hr h
      omega

/-! ## The scan follows the lexer -/

/-- The rest of the scan, with the flags `inString` and `escaped`. -/
def scanDepth (maxDepth : ℕ) (cs : List Char) (depth : ℕ) (flags : Bool × Bool) : Bool :=
  (cs.foldlM (DepthScan.step maxDepth) ⟨depth, flags.1, flags.2⟩).isNone

theorem scanDepth_cons (inString escaped : Bool) : scanDepth d (c :: cs) k (inString, escaped) =
    if inString then
      if escaped then scanDepth d cs k (true, false)
      else scanDepth d cs k (c ≠ '"' ∨ c = '\\', c = '\\')
    else if c = '"' then scanDepth d cs k (true, escaped)
    else if c = '\x7b' ∨ c = '[' then d < k + 1 || scanDepth d cs (k + 1) (false, escaped)
    else if c = '\x7d' ∨ c = ']' then scanDepth d cs (k - 1) (false, escaped)
    else scanDepth d cs k (false, escaped) := by
  simp only [scanDepth, List.foldlM_cons, DepthScan.step]
  split_ifs <;> simp_all

def JsonText.Mode.flags : Mode → Bool × Bool
  | .between | .word _ => (false, false)
  | .text _ | .unicode _ _ => (true, false)
  | .escape _ => (true, true)

/-- A character that is neither a quote nor a bracket. -/
theorem scanDepth_plain (hc : c ∉ ['"', '\x7b', '[', '\x7d', ']']) :
    scanDepth d (c :: cs) k (false, false) = scanDepth d cs k (false, false) := by
  simp only [List.mem_cons, List.not_mem_nil, or_false, not_or] at hc
  simp [scanDepth_cons, hc]

section Step

variable {next : Mode → Option (List Token)}
  (ih : ∀ {mode k ts}, next mode = some ts → scanDepth d cs k mode.flags = scanTokens d ts k)
include ih

theorem scanDepth_lexBetween (h : lexBetween c next = some ts) :
    scanDepth d (c :: cs) k (false, false) = scanTokens d ts k := by
  by_cases hc : c ∈ ['"', '\x7b', '[', '\x7d', ']']
  · simp only [List.mem_cons, List.not_mem_nil, or_false] at hc
    rcases hc with rfl | rfl | rfl | rfl | rfl
    · exact ih h
    all_goals
      obtain ⟨ts, hn, rfl⟩ := Option.map_eq_some_iff.mp h
      rw [scanTokens, ← ih hn]
      have ho : ((k : ℤ) + 1).toNat = k + 1 := by omega
      have hc : ((k : ℤ) + -1).toNat = k - 1 := by omega
      simp [scanDepth_cons, Token.delta, Mode.flags, ho, hc]
  · rw [scanDepth_plain hc]
    unfold lexBetween at h
    split_ifs at h with hw hq hwc
    · exact ih h
    · simp [hq] at hc
    · exact ih h
    · cases hp : punctuation? c with
      | none => simp [hp] at h
      | some t =>
        rw [hp] at h
        obtain ⟨ts, hn, rfl⟩ := Option.map_eq_some_iff.mp h
        unfold punctuation? at hp
        split at hp <;> cases hp <;> simp_all [scanTokens, Token.delta, ← ih hn, Mode.flags]

theorem scanDepth_lexChar {mode : Mode} (h : lexChar number c next mode = some ts) :
    scanDepth d (c :: cs) k mode.flags = scanTokens d ts k := by
  cases mode with
  | between => exact scanDepth_lexBetween ih h
  | word w =>
    rw [lexChar] at h
    split_ifs at h with hw
    · refine (scanDepth_plain fun hc => ?_).trans (ih h)
      simp only [List.mem_cons, List.not_mem_nil, or_false] at hc
      rcases hc with rfl | rfl | rfl | rfl | rfl <;> simp [isWordChar] at hw
    · obtain ⟨t, ht, h⟩ := Option.bind_eq_some_iff.mp h
      obtain ⟨ts, hn, rfl⟩ := Option.map_eq_some_iff.mp h
      refine (scanDepth_lexBetween ih hn).trans ?_
      unfold readWord at ht
      split_ifs at ht <;> cases ht <;> simp [scanTokens, Token.delta]
  | text units =>
    rw [lexChar] at h
    split_ifs at h with hq hb
    · obtain ⟨ts, hn, rfl⟩ := Option.map_eq_some_iff.mp h
      simp [scanDepth_cons, Mode.flags, hq, scanTokens, Token.delta, ← ih hn]
    · simp [scanDepth_cons, Mode.flags, hb, ← ih h]
    · simp [scanDepth_cons, Mode.flags, hb, hq, ← ih h]
  | escape units =>
    rw [lexChar] at h
    split at h
    · exact ih h
    · split at h
      · exact ih h
      · cases h
  | unicode units digits =>
    rw [lexChar] at h
    split at h
    · cases h
    · next v hv =>
      have hs : scanDepth d (c :: cs) k (true, false) = scanDepth d cs k (true, false) := by
        have hb : c ≠ '\\' := by
          rintro rfl
          simp [hexDigitValue?] at hv
        have hq : c ≠ '"' := by
          rintro rfl
          simp [hexDigitValue?] at hv
        simp [scanDepth_cons, hb, hq]
      split_ifs at h <;> exact hs.trans (ih h)

end Step

theorem scanDepth_lex {mode : Mode} (h : lex number cs mode = some ts) :
    scanDepth d cs k mode.flags = scanTokens d ts k := by
  induction cs generalizing mode k ts with
  | nil =>
    cases mode with
    | between =>
      cases h
      rfl
    | word w =>
      obtain ⟨t, ht, rfl⟩ := Option.map_eq_some_iff.mp h
      unfold readWord at ht
      split_ifs at ht <;> cases ht <;> simp [scanDepth, scanTokens, Token.delta]
    | text | escape | unicode => cases h
  | cons c cs ih => exact scanDepth_lexChar ih h

theorem scanDepth_of_append {flags : Bool × Bool} {q : List Char}
    (h : scanDepth d (q ++ cs) k flags = false) : scanDepth d q k flags = false := by
  rw [scanDepth, List.foldlM_append] at h
  rw [scanDepth]
  cases hq : q.foldlM (DepthScan.step d) ⟨k, flags.1, flags.2⟩ with
  | none => simp [hq] at h
  | some => rfl

theorem nesting_le_of_prefix {text : String} {q : List Char} (h : exceedsJsonDepth text d = false)
    (hq : q <+: text.toList) (hl : lex number q .between = some ts) : nesting ts ≤ d := by
  obtain ⟨r, hq⟩ := hq
  rw [exceedsJsonDepth, ← hq] at h
  have hs : scanTokens d ts 0 = false := (scanDepth_lex hl).symm.trans (scanDepth_of_append h)
  simpa using nesting_le_of_scanTokens (Nat.zero_le d) hs

/-- **The scan is exact** on valid texts, and where it goes through, no prefix of the text nests
deeper, whatever comes after it. -/
theorem exceedsJsonDepth_exact (number : String → JsNumber) (text : String) (d : ℕ) :
    (∀ ts v, lex number text.toList .between = some ts → read ts (.value, []) = some v →
      (exceedsJsonDepth text d = true ↔ d < nesting ts)) ∧
    (exceedsJsonDepth text d = false → ∀ q ts, q <+: text.toList →
      lex number q .between = some ts → nesting ts ≤ d) := by
  refine ⟨fun ts v hl hr => ?_, fun h q ts => nesting_le_of_prefix h⟩
  have hs : exceedsJsonDepth text d = scanTokens d ts 0 := scanDepth_lex hl
  rw [hs]
  refine ⟨fun h => by simpa [depth] using lt_nesting_of_scanTokens hr h, fun h => ?_⟩
  by_contra hf
  have hle := nesting_le_of_scanTokens (Nat.zero_le d) (Bool.not_eq_true _ ▸ hf)
  omega

/-- A request that is accepted has a body within both limits. -/
theorem acceptRequest_bounded (number : String → JsNumber) (env : IngestEnv) (config : IngestConfig)
    (enrollments : EnrollmentTable) (req : IngestRequest) :
    (∃ err, acceptRequest env config enrollments req = .error err) ∨
      req.body.length ≤ config.ingestMaxBodyBytes ∧ ∀ q ts, q <+: (env.decodeUtf8 req.body).toList →
        lex number q .between = some ts → nesting ts ≤ config.ingestMaxJsonDepth := by
  cases h : acceptRequest env config enrollments req with
  | error err => exact .inl ⟨err, rfl⟩
  | ok call =>
    obtain ⟨_, hb, h⟩ := Throwing.bind_eq_ok.mp h
    obtain ⟨_, hd, -⟩ := Throwing.bind_eq_ok.mp h
    refine .inr ⟨of_decide_eq_true (Throwing.require_eq_ok.mp hb), fun q ts => nesting_le_of_prefix ?_⟩
    simpa using Throwing.require_eq_ok.mp hd

end AcdpControlPlane
