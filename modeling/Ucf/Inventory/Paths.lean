import Ucf.Inventory.Validation
import Ucf.Library.Prefixes

/-! Repository paths as lists of segments. The policy's two kinds of matcher both work on the
segments: a prefix matcher matches what lies at or below its path, a segment matcher what has the
segment on its way. -/

namespace Ucf

/-- A segment as `PurePosixPath` yields it. -/
structure IsSegment (part : List Char) : Prop where
  notEmpty : part ≠ []
  notDot : part ≠ ['.']
  noSlash : '/' ∉ part

/-- The text of a path with the given segments. -/
def posixText (segments : List (List Char)) : List Char :=
  match segments with
  | [] => ['.']
  | segments => ['/'].intercalate segments

theorem posixText_of_ne_nil {segments : List (List Char)} (h : segments ≠ []) :
    posixText segments = ['/'].intercalate segments := by
  cases segments with
  | nil => exact absurd rfl h
  | cons _ _ => rfl

theorem posixString_eq (cs : List Char) : posixString cs = posixText (posixParts cs) := by
  rw [posixString]
  cases posixParts cs <;> rfl

theorem posixParent_eq (cs : List Char) : posixParent cs = posixText (posixParts cs).dropLast := by
  rw [posixParent]
  cases (posixParts cs).dropLast <;> rfl

theorem splitOn_eq (separator : Char) (cs : List Char) :
    splitOn separator cs = cs.splitOn separator := by
  induction cs with
  | nil => rfl
  | cons c cs ih =>
    rw [splitOn, ih, List.splitOn_cons_eq_if_modifyHead]
    cases hsplit : cs.splitOn separator with
    | nil => exact absurd hsplit (List.splitOn_ne_nil _ _)
    | cons part parts => by_cases hc : c = separator <;> simp [hc]

theorem isSegment_of_mem_posixParts {cs part : List Char} (h : part ∈ posixParts cs) :
    IsSegment part := by
  rw [posixParts, List.mem_filter, splitOn_eq] at h
  obtain ⟨hmem, hpart⟩ := h
  simp only [ne_eq, Bool.and_eq_true, decide_eq_true_eq] at hpart
  exact ⟨hpart.1, hpart.2, sep_notMem_of_mem_splitOn hmem⟩

theorem posixParts_posixText {segments : List (List Char)} (h : ∀ part ∈ segments, IsSegment part) :
    posixParts (posixText segments) = segments := by
  by_cases hnil : segments = []
  · rw [hnil]
    rfl
  · rw [posixParts, posixText_of_ne_nil hnil, splitOn_eq,
      List.splitOn_intercalate '/' (fun part hpart => (h part hpart).noSlash) hnil,
      List.filter_eq_self]
    intro part hpart
    simp [(h part hpart).notEmpty, (h part hpart).notDot]

theorem posixText_inj {xs ys : List (List Char)} (hxs : ∀ part ∈ xs, IsSegment part)
    (hys : ∀ part ∈ ys, IsSegment part) (h : posixText xs = posixText ys) : xs = ys := by
  rw [← posixParts_posixText hxs, h, posixParts_posixText hys]

variable [Unicodedata]

/-- The segments of a repository path. -/
def RepositoryPath.segments (path : RepositoryPath) : List (List Char) := posixParts path.val.toList

theorem isSegment_of_mem_segments {path : RepositoryPath} {part : List Char}
    (h : part ∈ path.segments) : IsSegment part :=
  isSegment_of_mem_posixParts h

theorem isSegment_of_mem_ancestor {path : RepositoryPath} {ancestor : List (List Char)}
    (h : ancestor <+: path.segments) : ∀ part ∈ ancestor, IsSegment part := fun _ hpart =>
  isSegment_of_mem_segments (h.subset hpart)

theorem posixText_of_isRepositoryPath {s : String} (h : isRepositoryPath s = true) :
    posixText (posixParts s.toList) = s.toList := by
  simp only [isRepositoryPath, Bool.and_eq_true, Bool.or_eq_true, decide_eq_true_eq] at h
  rcases h.2 with hdot | hpath
  · rw [hdot]
    rfl
  · rw [← posixString_eq]
    exact hpath.1.2

omit [Unicodedata] in
theorem andThenString_eq_none {check : String → Option String} {isValid : String → Bool}
    {s : String} : andThenString check isValid s = none ↔ check s = none ∧ isValid s = true := by
  rw [andThenString]
  cases check s with
  | some type => simp
  | none => cases isValid s <;> simp

/-- A repository path is the text of its segments. -/
theorem RepositoryPath.posixText_segments (path : RepositoryPath) :
    posixText path.segments = path.val.toList :=
  posixText_of_isRepositoryPath (andThenString_eq_none.mp path.property).2

theorem RepositoryPath.segments_inj {path path' : RepositoryPath}
    (h : path.segments = path'.segments) : path = path' := by
  apply Subtype.ext
  rw [← String.toList_inj, ← path.posixText_segments, h, path'.posixText_segments]

/-- The path of a prefix matcher. -/
def PrefixPath.toRepositoryPath (path : PrefixPath) : RepositoryPath :=
  ⟨path.val, (andThenString_eq_none.mp path.property).1⟩

theorem PrefixPath.segments_ne_nil (path : PrefixPath) : path.toRepositoryPath.segments ≠ [] := by
  intro h
  have htext := path.toRepositoryPath.posixText_segments
  rw [h] at htext
  have hne : path.val ≠ "." := by simpa using (andThenString_eq_none.mp path.property).2
  exact hne (String.toList_inj.mp htext.symm)

/-! ### What a policy matches -/

/-- What a matcher says about a path. -/
def IgnoreMatcher.Matches (segments : List (List Char)) : IgnoreMatcher → Prop
  | .pathPrefix path => path.toRepositoryPath.segments <+: segments
  | .pathSegment segment => segment.val.toList ∈ segments

theorem IgnoreMatcher.Matches.of_prefix {given : IgnoreMatcher} {ancestor path : List (List Char)}
    (h : given.Matches ancestor) (hle : ancestor <+: path) : given.Matches path := by
  cases given with
  | pathPrefix _ => exact List.IsPrefix.trans h hle
  | pathSegment _ => exact hle.subset h

theorem IgnoreMatcher.not_matches_root (given : IgnoreMatcher) : ¬ given.Matches [] := by
  cases given with
  | pathPrefix path => exact fun h => path.segments_ne_nil (List.prefix_nil.mp h)
  | pathSegment _ => exact List.not_mem_nil

/-- The comparison of texts in a prefix matcher is the comparison of segments. -/
theorem prefixMatch_iff {given : PrefixPath} {segments : List (List Char)}
    (h : ∀ part ∈ segments, IsSegment part) :
    (given.val.toList = ['.'] ∨ posixText segments = given.val.toList ∨
      given.val.toList ++ ['/'] <+: posixText segments) ↔
      given.toRepositoryPath.segments <+: segments := by
  have hgiven := given.toRepositoryPath.posixText_segments
  have hne := given.segments_ne_nil
  have hsegment := fun part => @isSegment_of_mem_segments _ given.toRepositoryPath part
  have hdot : given.val.toList ≠ ['.'] := by
    intro hdot
    refine hne (posixText_inj hsegment (by simp) ?_)
    rw [hgiven]
    exact hdot
  rw [show given.val.toList = posixText given.toRepositoryPath.segments from hgiven.symm] at hdot ⊢
  generalize given.toRepositoryPath.segments = gs at *
  rw [or_iff_right hdot]
  by_cases hnil : segments = []
  · subst hnil
    rw [List.prefix_nil]
    constructor
    · rintro (heq | hle)
      · exact (posixText_inj (by simp) hsegment heq).symm
      · have hdot' : posixText [] = ['/'].intercalate [['.']] := rfl
        rw [posixText_of_ne_nil hne, hdot', intercalate_sep_prefix_iff
          (fun x hx => (hsegment x hx).noSlash) (by simp) hne] at hle
        exact absurd (hle.1.eq_of_length_le (List.length_pos_iff.mpr hne)) hle.2
    · exact fun heq => absurd heq hne
  · rw [posixText_of_ne_nil hne, posixText_of_ne_nil hnil,
      intercalate_sep_prefix_iff (fun x hx => (hsegment x hx).noSlash)
        (fun y hy => (h y hy).noSlash) hne]
    constructor
    · rintro (heq | ⟨hle, -⟩)
      · have heq' : posixText segments = posixText gs := by
          rw [posixText_of_ne_nil hne, posixText_of_ne_nil hnil, heq]
        exact (posixText_inj h hsegment heq').symm ▸ List.prefix_rfl
      · exact hle
    · intro hle
      by_cases heq : gs = segments
      · exact .inl (by rw [heq])
      · exact .inr ⟨hle, heq⟩

/-- The rules that match a path, by its segments. -/
theorem mem_matchingRuleIds {policy : IgnorePolicy} {segments : List (List Char)}
    (h : ∀ part ∈ segments, IsSegment part) {id : Identifier} :
    id ∈ matchingRuleIds policy (posixText segments) ↔
      ∃ rule ∈ policy.rules.items, rule.matcher.Matches segments ∧ rule.id = id := by
  have hparts : (if posixText segments = ['.'] then [] else posixParts (posixText segments)) =
      segments := by
    split
    · rename_i hdot
      have hroot : posixText segments = posixText [] := hdot
      exact (posixText_inj h (by simp) hroot).symm
    · exact posixParts_posixText h
  simp only [matchingRuleIds, hparts, List.mem_map, List.mem_filter]
  constructor
  · rintro ⟨rule, ⟨hrule, hmatch⟩, hid⟩
    refine ⟨rule, hrule, ?_, hid⟩
    cases hmatcher : rule.matcher with
    | pathPrefix given =>
      rw [hmatcher] at hmatch
      exact (prefixMatch_iff h).mp (by simpa [or_assoc] using hmatch)
    | pathSegment segment =>
      rw [hmatcher] at hmatch
      simpa [IgnoreMatcher.Matches] using hmatch
  · rintro ⟨rule, hrule, hmatch, hid⟩
    refine ⟨rule, ⟨hrule, ?_⟩, hid⟩
    cases hmatcher : rule.matcher with
    | pathPrefix given =>
      rw [hmatcher] at hmatch
      simpa [or_assoc] using (prefixMatch_iff h).mpr hmatch
    | pathSegment segment =>
      rw [hmatcher] at hmatch
      simpa [IgnoreMatcher.Matches] using hmatch

/-- Some rule of the policy matches the path. -/
def IgnorePolicy.Matches (policy : IgnorePolicy) (segments : List (List Char)) : Prop :=
  ∃ rule ∈ policy.rules.items, rule.matcher.Matches segments

theorem IgnorePolicy.Matches.of_prefix {policy : IgnorePolicy} {ancestor path : List (List Char)}
    (h : policy.Matches ancestor) (hle : ancestor <+: path) : policy.Matches path := by
  obtain ⟨rule, hrule, hmatch⟩ := h
  exact ⟨rule, hrule, hmatch.of_prefix hle⟩

theorem matchingRuleIds_ne_nil_iff {policy : IgnorePolicy} {segments : List (List Char)}
    (h : ∀ part ∈ segments, IsSegment part) :
    matchingRuleIds policy (posixText segments) ≠ [] ↔ policy.Matches segments := by
  constructor
  · intro hne
    obtain ⟨_, hid⟩ := List.exists_mem_of_ne_nil _ hne
    obtain ⟨rule, hrule, hmatch, -⟩ := (mem_matchingRuleIds h).mp hid
    exact ⟨rule, hrule, hmatch⟩
  · rintro ⟨rule, hrule, hmatch⟩
    exact List.ne_nil_of_mem ((mem_matchingRuleIds h).mpr ⟨rule, hrule, hmatch, rfl⟩)

/-- Nothing on the way to a path is matched when the path itself is not. -/
theorem not_matches_of_matchingRuleIds_eq_nil {policy : IgnorePolicy} {path : RepositoryPath}
    (h : matchingRuleIds policy path.val.toList = []) {ancestor : List (List Char)}
    (hle : ancestor <+: path.segments) : ¬ policy.Matches ancestor := by
  intro hmatch
  rw [← path.posixText_segments] at h
  exact (matchingRuleIds_ne_nil_iff (isSegment_of_mem_ancestor List.prefix_rfl)).mpr
    (hmatch.of_prefix hle) h

end Ucf
