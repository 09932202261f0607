import AcdpControlPlane.Common.Js

/-!
# Registry authorities and their DIDs

The conversion of the authority a registry is enrolled under to its `did:web` DID and back, as
`src/common/did-authority.ts` computes it: the port's colon is percent-encoded, and an authority
that already carries a `%` is refused.
-/

namespace AcdpControlPlane

/-- The characters that `String.prototype.trim` removes. -/
def isJsSpace (c : Char) : Bool :=
  (9 ≤ c.toNat && c.toNat ≤ 13) || (8192 ≤ c.toNat && c.toNat ≤ 8202) ||
    [32, 160, 5760, 8232, 8233, 8239, 8287, 12288, 65279].contains c.toNat

/-- The text `s.trim()`. -/
def jsTrim (s : String) : String :=
  String.ofList (((s.toList.dropWhile isJsSpace).reverse.dropWhile isJsSpace).reverse)

/-- The test `s.trim().length > 0`. -/
def isNonBlank (s : String) : Bool := s.toList.any (!isJsSpace ·)

def isCanonicalAuthority (authority : String) : Bool :=
  isNonBlank authority && !includesChar authority '%'

/-- The replacement `replaceAll(':', '%3A')`, on characters. -/
def encodeColons (cs : List Char) : List Char :=
  cs.flatMap fun c => if c = ':' then ['%', '3', 'A'] else [c]

def authorityToDidWeb (authority : String) : Option String :=
  if isCanonicalAuthority authority then
    some ("did:web:" ++ String.ofList (encodeColons authority.toList))
  else none

/-- The replacement `replaceAll('%3A', ':')`, on characters. -/
def decodeColons : List Char → List Char
  | '%' :: '3' :: 'A' :: cs => ':' :: decodeColons cs
  | c :: cs => c :: decodeColons cs
  | [] => []

def didWebToAuthority (did : String) : Option String :=
  if startsWith did "did:web:" then
    some (String.ofList (decodeColons ((did.toList.drop 8).takeWhile (· != ':'))))
  else none

def nonCanonicalAuthorityReason (authority : String) : String :=
  if !isNonBlank authority then
    "registry authority is blank — no did:web identity can be derived from it"
  else
    "registry authority '" ++ authority ++ "' is not a canonical did:web authority: it contains " ++
      "'%', so it appears to be percent-encoded already (store 'localhost:8443', not " ++
      "'localhost%3A8443')"

theorem decodeColons_cons {c : Char} (hc : c ≠ '%') (cs : List Char) :
    decodeColons (c :: cs) = c :: decodeColons cs :=
  decodeColons.eq_2 _ _ fun _ h => absurd h hc

theorem encodeColons_cons (c : Char) (cs : List Char) :
    encodeColons (c :: cs) = (if c = ':' then ['%', '3', 'A'] else [c]) ++ encodeColons cs :=
  List.flatMap_cons

theorem decodeColons_encodeColons {cs : List Char} (hcs : '%' ∉ cs) :
    decodeColons (encodeColons cs) = cs := by
  induction cs with
  | nil => rfl
  | cons c cs ih =>
    obtain ⟨hc, hcs⟩ := List.ne_and_not_mem_of_not_mem_cons hcs
    rw [encodeColons_cons]
    split
    · next hco => simp [hco, decodeColons, ih hcs]
    · simp [decodeColons_cons hc.symm, ih hcs]

theorem colon_notMem_encodeColons (cs : List Char) : ':' ∉ encodeColons cs := by
  intro h
  obtain ⟨c, -, hc⟩ := List.mem_flatMap.mp h
  split at hc
  · simp at hc
  · next hn => exact hn (List.mem_singleton.mp hc).symm

theorem didWebToAuthority_authorityToDidWeb {a did : String} (h : authorityToDidWeb a = some did) :
    didWebToAuthority did = some a := by
  unfold authorityToDidWeb at h
  split at h
  · next hca =>
    cases h
    simp only [isCanonicalAuthority, includesChar, Bool.and_eq_true, Bool.not_eq_true'] at hca
    have hp : '%' ∉ a.toList := by simpa using hca.2
    -- the encoded authority has no colon, so it is the whole first segment
    have hs : (encodeColons a.toList).takeWhile (· != ':') = encodeColons a.toList := by
      rw [List.takeWhile_eq_self_iff]
      intro c hc
      simpa using ne_of_mem_of_not_mem hc (colon_notMem_encodeColons _)
    have hr : ("did:web:" ++ String.ofList (encodeColons a.toList)).toList.drop 8 =
        encodeColons a.toList := by simp
    rw [didWebToAuthority, hr, hs, decodeColons_encodeColons hp, String.ofList_toList,
      if_pos (by simp [startsWith])]
  · cases h

theorem authorityToDidWeb_injective {a b did : String} (ha : authorityToDidWeb a = some did)
    (hb : authorityToDidWeb b = some did) : a = b :=
  Option.some.inj ((didWebToAuthority_authorityToDidWeb ha).symm.trans
    (didWebToAuthority_authorityToDidWeb hb))

end AcdpControlPlane
