import Ucf.Library.Hex
import Ucf.Scalars

/-! SHA-256 digests and the identifiers derived from them. A digest value is 64 hexadecimal
digits, kept here as the number they write; the model takes the hash function as a parameter. -/

namespace Ucf

theorem isLowerAlnum_hexChar {n : Nat} (h : n < 16) : isLowerAlnum (hexChar n) = true := by
  revert n
  decide

theorem all_isLowerAlnum_hexChars (count n : Nat) :
    (hexChars count n).all isLowerAlnum = true := by
  induction count generalizing n with
  | zero => rfl
  | succ count ih =>
    rw [hexChars, List.all_append, ih]
    simp [isLowerAlnum_hexChar (Nat.mod_lt n (by decide : 0 < 16))]

/-! ### Digests -/

/-- One more than the greatest digest value. -/
@[irreducible] def digestBound : Nat := 16 ^ 64

theorem lt_digestBound {n : Nat} : n < digestBound ↔ n < 16 ^ 64 := by
  rw [digestBound]

theorem digestBound_pos : 0 < digestBound := lt_digestBound.mpr (by decide)

/-- The value of a SHA-256 digest: 64 lower-case hexadecimal digits, as the number they write. -/
@[ext] structure DigestValue where
  number : Nat
  isLt : number < digestBound
deriving DecidableEq

namespace DigestValue

instance : LinearOrder DigestValue := LinearOrder.lift' number fun _ _ => DigestValue.ext

/-- The 64 digits. -/
def text (value : DigestValue) : String := String.ofList (hexChars 64 value.number)

/-- A digest value from 64 digits. -/
def parse (cs : List Char) : Except String DigestValue :=
  match hexNumber? cs with
  | some n =>
    if h : cs.length = 64 ∧ n < digestBound then .ok ⟨n, h.2⟩ else .error "string_pattern_mismatch"
  | none => .error "string_pattern_mismatch"

theorem parse_eq_ok {cs : List Char} {value : DigestValue} :
    parse cs = .ok value ↔ cs = hexChars 64 value.number := by
  obtain ⟨n, hn⟩ := value
  constructor
  · intro h
    unfold parse at h
    split at h
    · rename_i m hm
      split at h
      · rename_i hlength
        obtain rfl : m = n := by simpa using h
        have hcs := (hexNumber?_eq_some.mp hm).2
        rwa [hlength.1] at hcs
      · cases h
    · cases h
  · intro h
    have hlength : cs.length = 64 := by rw [h, length_hexChars]
    have hnumber : hexNumber? cs = some n := by rw [h, hexNumber?_hexChars (lt_digestBound.mp hn)]
    have hcond : cs.length = 64 ∧ n < digestBound := ⟨hlength, hn⟩
    simp only [parse, hnumber]
    rw [dif_pos hcond]

theorem text_injective : Function.Injective text := by
  intro value value' h
  have hparse : parse value.text.toList = .ok value := by
    rw [parse_eq_ok, text, String.toList_ofList]
  rw [h, parse_eq_ok, text, String.toList_ofList] at hparse
  have hparse' := parse_eq_ok.mpr hparse
  rw [parse_eq_ok.mpr rfl, Except.ok.injEq] at hparse'
  exact hparse'.symm

end DigestValue

instance : Model DigestValue where
  schema := .ofString DigestValue.text (fun s => DigestValue.parse s.toList) fun s value => by
    rw [DigestValue.parse_eq_ok, DigestValue.text, ← String.toList_inj, String.toList_ofList]
  notNull _ := nofun

/-- `{"kind": "digest", "algorithm": "sha-256", "value": ...}` -/
structure Digest where
  value : DigestValue
deriving DecidableEq

instance : Model Digest :=
  .record (.lit "kind" "digest" <| .lit "algorithm" "sha-256" <| .required "value" .nil)
    (fun d => (d.value, ())) (fun (value, ()) => ⟨value⟩)

/-- What is hashed: the text of a string, or the canonical text of a JSON value, which has sorted
keys, no spaces, only ASCII characters and a final newline. -/
inductive Payload where
  | text (s : String)
  | canonical (value : Json)

/-- The SHA-256 digest of a payload. Everything below holds for any function in its place. -/
class Hashlib where
  sha256 : Payload → DigestValue

/-- `hashlib.sha256(_canonical_identity_bytes(value)).hexdigest()` -/
def identityDigest [Hashlib] (value : Json) : DigestValue := Hashlib.sha256 (.canonical value)

/-! ### Derived identifiers -/

/-- An identifier made of a tag, a dot and the 64 digits of a digest. Identifiers of one kind
are ordered as their texts are: by their digests. -/
@[ext] structure ContentId (tag : String) where
  digest : DigestValue
deriving DecidableEq

instance lawfulBEqContentId (tag : String) : LawfulBEq (ContentId tag) := inferInstance

namespace ContentId

variable {tag : String}

theorem digest_injective : Function.Injective (@ContentId.digest tag) :=
  fun _ _ => ContentId.ext

instance : LinearOrder (ContentId tag) := LinearOrder.lift' ContentId.digest digest_injective

/-- The identifier as a string. -/
def text (id : ContentId tag) : String := tag ++ "." ++ id.digest.text

/-- The characters that follow a prefix. -/
def dropPrefix : List Char → List Char → Option (List Char)
  | [], cs => some cs
  | _ :: _, [] => none
  | p :: ps, c :: cs => if p = c then dropPrefix ps cs else none

theorem dropPrefix_eq_some {ps cs rest : List Char} :
    dropPrefix ps cs = some rest ↔ cs = ps ++ rest := by
  induction ps generalizing cs with
  | nil => simp [dropPrefix]
  | cons p ps ih =>
    cases cs with
    | nil => simp [dropPrefix]
    | cons c cs =>
      by_cases h : p = c
      · simp [dropPrefix, h, ih]
      · simp [dropPrefix, h, Ne.symm h]

theorem text_injective : Function.Injective (@text tag) := by
  intro id id' h
  rw [text, text, ← String.toList_inj] at h
  simp only [String.toList_append, List.append_cancel_left_eq] at h
  exact ContentId.ext (DigestValue.text_injective (String.toList_inj.mp h))

/-- An identifier from its text. -/
def parse (s : String) : Except String (ContentId tag) :=
  match dropPrefix (tag ++ ".").toList s.toList with
  | some digits => (DigestValue.parse digits).map fun digest => ⟨digest⟩
  | none => .error "string_pattern_mismatch"

theorem parse_eq_ok {s : String} {id : ContentId tag} : parse s = .ok id ↔ s = id.text := by
  have hmap : ∀ x : Except String DigestValue,
      (x.map fun digest => (⟨digest⟩ : ContentId tag)) = .ok id ↔ x = .ok id.digest := by
    intro x
    cases x <;> simp [Except.map, ContentId.ext_iff]
  have htext : s = id.text ↔ s.toList = (tag ++ ".").toList ++ hexChars 64 id.digest.number := by
    rw [← String.toList_inj, text, String.toList_append, DigestValue.text, String.toList_ofList]
  rw [htext, parse]
  cases hdrop : dropPrefix (tag ++ ".").toList s.toList with
  | none =>
    simp only [reduceCtorEq, false_iff]
    intro h
    rw [dropPrefix_eq_some.mpr h] at hdrop
    cases hdrop
  | some digits =>
    simp only [hmap, DigestValue.parse_eq_ok]
    rw [dropPrefix_eq_some.mp hdrop]
    simp

end ContentId

instance (tag : String) : Model (ContentId tag) where
  schema := .ofString ContentId.text ContentId.parse fun _ _ => ContentId.parse_eq_ok
  notNull _ := nofun

/-! ### Identifiers and URIs that end in a digest -/

theorem matchSegments_append_separator {isSeparator : Char → Bool} {c : Char} {cs ds : List Char}
    {pending : Bool} (hc : isLowerAlnum c = false) (hsep : isSeparator c = true)
    (h : matchSegments isSeparator pending cs = true) :
    matchSegments isSeparator pending (cs ++ c :: ds) = matchSegments isSeparator true ds := by
  induction cs generalizing pending with
  | nil =>
    have hpending : pending = false := by simpa [matchSegments] using h
    simp [matchSegments, hc, hsep, hpending]
  | cons d cs ih =>
    by_cases hd : isLowerAlnum d = true
    · simp only [matchSegments, hd, if_true, List.cons_append] at h ⊢
      exact ih h
    · simp only [matchSegments, hd, List.cons_append] at h ⊢
      simp only [Bool.false_eq_true, if_false, Bool.and_eq_true] at h ⊢
      rw [h.1.1, h.1.2, Bool.true_and, Bool.true_and]
      exact ih h.2

/-- The tags before a digest: short names. -/
def isDigestTag (tag : String) : Bool :=
  tag.toList.length ≤ 128 && matchName (fun c => c ∈ ['.', '_', '-']) tag.toList

theorem isDigestTag_behavior : isDigestTag "behavior" = true := by decide

theorem isDigestTag_trust : isDigestTag "trust" = true := by decide

theorem stringConstraints_digestTag {tag : String} (h : isDigestTag tag = true)
    (digest : DigestValue) :
    stringConstraints 1 (some 255) (matchName fun c => c ∈ ['.', '_', '-'])
      (tag ++ "." ++ digest.text) = none := by
  rw [isDigestTag, Bool.and_eq_true, decide_eq_true_eq] at h
  obtain ⟨hlength, hname⟩ := h
  have hchars : (tag ++ "." ++ digest.text).toList =
      tag.toList ++ '.' :: hexChars 64 digest.number := by
    simp [DigestValue.text, String.toList_append]
  have hmatch : matchName (fun c => c ∈ ['.', '_', '-'])
      (tag.toList ++ '.' :: hexChars 64 digest.number) = true := by
    cases hcs : tag.toList with
    | nil => simp [hcs, matchName] at hname
    | cons c cs =>
      rw [hcs, matchName, Bool.and_eq_true] at hname
      rw [List.cons_append, matchName, hname.1, Bool.true_and,
        matchSegments_append_separator (by decide) (by decide) hname.2]
      have hne : hexChars 64 digest.number ≠ [] := by
        intro hnil
        have := length_hexChars 64 digest.number
        rw [hnil] at this
        cases this
      have hdigits := @matchSegments_append (fun c => c ∈ ['.', '_', '-']) _ []
        (all_isLowerAlnum_hexChars 64 digest.number) hne true
      rw [List.append_nil] at hdigits
      rw [hdigits]
      rfl
  have hcount : (tag.toList ++ '.' :: hexChars 64 digest.number).length =
      tag.toList.length + 65 := by
    rw [List.length_append, List.length_cons, length_hexChars]
  simp only [stringConstraints, hchars, hcount, hmatch, Option.any_some]
  rw [if_neg (by omega), if_neg (by simp; omega), if_pos trivial]

/-- `f"{tag}.{digest}"` -/
def digestIdentifier (tag : String) (digest : DigestValue) (h : isDigestTag tag = true) :
    Identifier :=
  ⟨tag ++ "." ++ digest.text, stringConstraints_digestTag h digest⟩

theorem digestIdentifier_injective {tag : String} {digest digest' : DigestValue}
    (h : isDigestTag tag = true)
    (heq : digestIdentifier tag digest h = digestIdentifier tag digest' h) : digest = digest' := by
  have htext : tag ++ "." ++ digest.text = tag ++ "." ++ digest'.text := congrArg Subtype.val heq
  rw [← String.toList_inj] at htext
  simp only [String.toList_append, List.append_cancel_left_eq] at htext
  exact DigestValue.text_injective (String.toList_inj.mp htext)

theorem matchUri_append {cs ds : List Char} (h : matchUri cs = true)
    (hds : ds.all (fun c => !isSpace c) = true) : matchUri (cs ++ ds) = true := by
  simp only [matchUri, Bool.and_eq_true, decide_eq_true_eq] at h ⊢
  obtain ⟨⟨⟨⟨hhead, hscheme⟩, hcolon⟩, hrest⟩, hspace⟩ := h
  -- the scheme ends at the first colon, which stands in the first part
  have hlength := congrArg List.length (List.takeWhile_append_dropWhile (p := fun c => c ≠ ':')
    (l := cs))
  rw [List.length_append] at hlength
  have hdrop : cs.dropWhile (fun c => c ≠ ':') ≠ [] := by
    intro hnil
    rw [hnil] at hlength
    exact hcolon (by simpa using hlength.symm)
  have hne : (cs.takeWhile fun c => c ≠ ':').length ≠ cs.length := fun heq => hcolon heq.symm
  have htake : (cs ++ ds).takeWhile (fun c => c ≠ ':') = cs.takeWhile fun c => c ≠ ':' := by
    rw [List.takeWhile_append, if_neg hne]
  have hdropAll : (cs ++ ds).dropWhile (fun c => c ≠ ':') =
      cs.dropWhile (fun c => c ≠ ':') ++ ds := by
    rw [List.dropWhile_append, if_neg (by simpa using hdrop)]
  obtain ⟨colon, rest, hcs⟩ := List.exists_cons_of_ne_nil hdrop
  rw [hcs] at hdropAll hrest hspace
  rw [htake, hdropAll]
  refine ⟨⟨⟨⟨hhead, hscheme⟩, ?_⟩, ?_⟩, ?_⟩
  · rw [hcs, List.length_cons] at hlength
    rw [List.length_append]
    omega
  · simp only [List.cons_append, List.drop_succ_cons, List.drop_zero] at hrest ⊢
    simp [hrest]
  · simp only [List.cons_append, List.drop_succ_cons, List.drop_zero, List.all_append,
      Bool.and_eq_true] at hspace ⊢
    exact ⟨hspace, hds⟩

theorem isSpace_of_isLowerAlnum {c : Char} (h : isLowerAlnum c = true) : isSpace c = false := by
  have hrange : (0x61 ≤ c.toNat ∧ c.toNat ≤ 0x7a) ∨ (0x30 ≤ c.toNat ∧ c.toNat ≤ 0x39) := by
    simpa [isLowerAlnum, isLower, isDigit, Char.le_def, UInt32.le_iff_toNat_le] using h
  simp only [isSpace, Bool.or_eq_false_iff, Bool.and_eq_false_iff, decide_eq_false_iff_not]
  omega

/-- The texts before a digest: short URIs. -/
def isUriTag (tag : String) : Bool :=
  3 ≤ tag.toList.length && tag.toList.length ≤ 1024 && matchUri tag.toList

theorem isUriTag_decisionSet : isUriTag "urn:ucf:onboarding:decision-set:" = true := by decide

theorem uriConstraints_uriTag {tag : String} (h : isUriTag tag = true) (digest : DigestValue) :
    uriConstraints (tag ++ digest.text) = none := by
  simp only [isUriTag, Bool.and_eq_true, decide_eq_true_eq] at h
  obtain ⟨⟨hlower, hupper⟩, hmatch⟩ := h
  have hchars : (tag ++ digest.text).toList = tag.toList ++ hexChars 64 digest.number := by
    simp [DigestValue.text, String.toList_append]
  have hspace : (hexChars 64 digest.number).all (fun c => !isSpace c) = true := by
    refine List.all_eq_true.mpr fun c hc => ?_
    rw [isSpace_of_isLowerAlnum
      (List.all_eq_true.mp (all_isLowerAlnum_hexChars 64 digest.number) c hc)]
    rfl
  have hcount : (tag.toList ++ hexChars 64 digest.number).length = tag.toList.length + 64 := by
    rw [List.length_append, length_hexChars]
  simp only [uriConstraints, stringConstraints, hchars, hcount, matchUri_append hmatch hspace,
    Option.any_some]
  rw [if_neg (by omega), if_neg (by simp; omega), if_pos trivial]

/-- `f"{tag}{digest}"` for a tag that is the beginning of a URI -/
def digestUri (tag : String) (digest : DigestValue) (h : isUriTag tag = true) : URI :=
  ⟨tag ++ digest.text, uriConstraints_uriTag h digest⟩

end Ucf
