import Ucf.Library.OrderedUnion
import Ucf.Spec.Registry

/-! Use case composition: `resolve_extends` flattens a use case with the chain of use cases that it
extends. -/

namespace Ucf.Spec

/-- `str(items)` of a list of strings: its quoting depends on what the interpreter takes as
printable. -/
class ReprStrings where
  reprStrings : List String → String

export ReprStrings (reprStrings)

/-- `text.replace("$ref:", "")` -/
def dropRefMarks : List Char → List Char
  | '$' :: 'r' :: 'e' :: 'f' :: ':' :: cs => dropRefMarks cs
  | c :: cs => c :: dropRefMarks cs
  | [] => []

/-- `uc.extends.replace("$ref:", "")` -/
def parentRef (ref : String) : String := String.ofList (dropRefMarks ref.toList)

/-- The codes of a `CompositionError` -/
inductive CompositionErrorCode where
  | parentNotFound
  | circularExtends
  | stepIdClash
deriving DecidableEq, Repr

def CompositionErrorCode.value : CompositionErrorCode → String
  | parentNotFound => "PARENT_NOT_FOUND"
  | circularExtends => "CIRCULAR_EXTENDS"
  | stepIdClash => "STEP_ID_CLASH"

/-- `CompositionError` -/
structure CompositionError where
  code : CompositionErrorCode
  message : String
deriving DecidableEq

/-- `str(error)` -/
def CompositionError.text (e : CompositionError) : String := e.code.value ++ ": " ++ e.message

/-- `first or second`: the empty string counts as missing. -/
def orElse (first second : Option String) : Option String :=
  match first with
  | some text => if text = "" then second else some text
  | none => second

/-- `parent_step_ids_set & child_step_ids_set`, sorted -/
def stepClash (parent uc : UseCaseSpec) : List String :=
  sortedSet (parent.stepIds.filter fun id => id ∈ uc.stepIds)

/-- The use case that `resolve_extends` builds from a flattened parent and its child. The source
names neither `assumed_preconditions` nor `terminal`, so both take their defaults. -/
def mergeParent (parent uc : UseCaseSpec) : UseCaseSpec where
  metadata := uc.metadata
  extends_ := none
  trigger := orElse uc.trigger parent.trigger
  inputFromEvent := parent.inputFromEvent.update uc.inputFromEvent.items
  requires := unite ComponentRequirement.ref parent.requires uc.requires
  preconditions := unite id parent.preconditions uc.preconditions
  steps := parent.steps ++ uc.steps
  alternativeFlows := parent.alternativeFlows ++ uc.alternativeFlows
  postconditions := unite id parent.postconditions uc.postconditions
  invariants := unite invariantReference parent.invariants uc.invariants
  concurrency := parent.concurrency ++ uc.concurrency

/-- The parent that a reference resolves to. -/
def resolveParent (r : SpecRegistry) (ref : String) : Except CompositionError UseCaseSpec :=
  match r.resolveRef (parentRef ref) with
  | none => .error ⟨.parentNotFound,
      "extends reference '" ++ ref ++ "' does not resolve to a known use case"⟩
  | some (.usecase parent) => .ok parent
  | some other => .error ⟨.parentNotFound,
      "extends reference '" ++ ref ++ "' resolves to a " ++ other.kind.value ++ ", not a use case"⟩

/-- `use case extends parent` -/
def Extends (r : SpecRegistry) (uc parent : UseCaseSpec) : Prop :=
  ∃ ref, uc.extends_ = some ref ∧ r.resolveRef (parentRef ref) = some (.usecase parent)

theorem resolveParent_eq_ok {r : SpecRegistry} {ref : String} {parent : UseCaseSpec} :
    resolveParent r ref = .ok parent ↔ r.resolveRef (parentRef ref) = some (.usecase parent) := by
  rw [resolveParent]
  cases r.resolveRef (parentRef ref) with
  | none => simp
  | some spec => cases spec <;> simp

theorem mem_usecases_of_resolveParent {r : SpecRegistry} {ref : String} {parent : UseCaseSpec}
    (h : resolveParent r ref = .ok parent) : parent ∈ r.usecases :=
  SpecRegistry.mem_usecases.mpr (SpecRegistry.resolveRef_eq_some.mp (resolveParent_eq_ok.mp h)).1

/-- The names of the use cases that are not in `names`. -/
def namesLeft (r : SpecRegistry) (names : List String) : List String :=
  (r.usecases.map UseCaseSpec.name).filter fun name => name ∉ names

theorem length_namesLeft_lt {r : SpecRegistry} {names : List String} {uc : UseCaseSpec}
    (huc : uc ∈ r.usecases) (hnot : uc.name ∉ names) :
    (namesLeft r (names ++ [uc.name])).length < (namesLeft r names).length := by
  have hfilter : namesLeft r (names ++ [uc.name]) =
      (namesLeft r names).filter fun name => name ≠ uc.name := by
    rw [namesLeft, namesLeft, List.filter_filter]
    refine List.filter_congr fun name _ => ?_
    rw [← Bool.decide_and, decide_eq_decide, List.mem_append, List.mem_singleton, not_or]
    exact and_comm
  rw [hfilter]
  refine List.length_filter_lt_length_iff_exists.mpr ⟨uc.name, ?_, by simp⟩
  rw [namesLeft, List.mem_filter, decide_eq_true_iff]
  exact ⟨List.mem_map_of_mem huc, hnot⟩

section Resolve

variable [ReprStrings]

/-- `resolve_extends`, where `chain` holds the names from the use case that it was called for. -/
def resolveFrom (r : SpecRegistry) (uc : UseCaseSpec) (chain : List String) :
    Except CompositionError (UseCaseSpec × List String × List String) :=
  match uc.extends_ with
  | none => .ok (uc, [uc.name], [])
  | some ref =>
    match _h : resolveParent r ref with
    | .error e => .error e
    | .ok parent =>
      if _hname : parent.name ∈ chain then
        .error ⟨.circularExtends,
          "circular extends: " ++ " -> ".intercalate chain ++ " -> " ++ parent.name⟩
      else do
        let (parent, chain) ← match parent.extends_ with
          | some _ => do
            let (flattened, ancestorChain, _) ← resolveFrom r parent (chain ++ [parent.name])
            pure (flattened, ancestorChain)
          | none => pure (parent, chain ++ [parent.name])
        require (stepClash parent uc = [])
          ⟨.stepIdClash, "step IDs conflict between parent and child: " ++
            reprStrings (stepClash parent uc)⟩
        pure (mergeParent parent uc, chain, parent.stepIds)
termination_by (namesLeft r chain).length
decreasing_by
  exact length_namesLeft_lt (mem_usecases_of_resolveParent _h) _hname

/-- `resolve_extends` -/
def resolveExtends (r : SpecRegistry) (uc : UseCaseSpec) :
    Except CompositionError (UseCaseSpec × List String × List String) :=
  resolveFrom r uc [uc.name]

/-! ### Chains of use cases -/

/-- The use cases that `uc` extends, its parent first and the root ancestor last. -/
inductive ExtendsChain (r : SpecRegistry) : UseCaseSpec → List UseCaseSpec → Prop
  | root {uc : UseCaseSpec} (h : uc.extends_ = none) : ExtendsChain r uc []
  | extend {uc parent : UseCaseSpec} {ancestors : List UseCaseSpec} (h : Extends r uc parent)
      (chain : ExtendsChain r parent ancestors) : ExtendsChain r uc (parent :: ancestors)

/-- No two of the members share a step id. -/
def StepsApart (members : List UseCaseSpec) : Prop :=
  members.Pairwise fun child ancestor => ∀ id ∈ ancestor.stepIds, id ∉ child.stepIds

/-- The use case that merging a chain gives. -/
def flatten : UseCaseSpec → List UseCaseSpec → UseCaseSpec
  | uc, [] => uc
  | uc, parent :: ancestors => mergeParent (flatten parent ancestors) uc

/-- The step ids that precede those of the use case itself. -/
def parentStepIds : List UseCaseSpec → List String
  | [] => []
  | parent :: ancestors => (flatten parent ancestors).stepIds

variable {r : SpecRegistry} {uc parent : UseCaseSpec} {ancestors : List UseCaseSpec}
  {chain : List String} {res : UseCaseSpec × List String × List String}

omit [ReprStrings] in
theorem stepIds_flatten : (flatten uc ancestors).stepIds =
    (uc :: ancestors).reverse.flatMap UseCaseSpec.stepIds := by
  induction ancestors generalizing uc with
  | nil => simp [flatten]
  | cons parent ancestors ih =>
    rw [flatten, UseCaseSpec.stepIds, mergeParent, List.map_append, List.reverse_cons,
      List.flatMap_append, ← ih]
    simp [UseCaseSpec.stepIds]

omit [ReprStrings] in
theorem stepClash_eq_nil : stepClash parent uc = [] ↔ ∀ id ∈ parent.stepIds, id ∉ uc.stepIds := by
  rw [List.eq_nil_iff_forall_not_mem]
  simp [stepClash]

omit [ReprStrings] in
theorem stepsApart_cons : StepsApart (uc :: parent :: ancestors) ↔
    stepClash (flatten parent ancestors) uc = [] ∧ StepsApart (parent :: ancestors) := by
  rw [StepsApart, List.pairwise_cons, ← StepsApart, stepClash_eq_nil, stepIds_flatten]
  refine and_congr_left fun _ => ?_
  simp only [List.mem_flatMap, List.mem_reverse]
  constructor
  · rintro h id ⟨ancestor, hancestor, hid⟩
    exact h ancestor hancestor id hid
  · intro h ancestor hancestor id hid
    exact h id ⟨ancestor, hancestor, hid⟩

theorem resolveFrom_root (h : uc.extends_ = none) :
    resolveFrom r uc chain = .ok (uc, [uc.name], []) := by
  rw [resolveFrom, h]

/-- What one level of the recursion does. -/
theorem resolveFrom_extends {ref : String} (h : uc.extends_ = some ref) :
    resolveFrom r uc chain = .ok res ↔ ∃ parent flat names, Extends r uc parent ∧
      parent.name ∉ chain ∧
      ((parent.extends_ = none ∧ flat = parent ∧ names = chain ++ [parent.name]) ∨
        (parent.extends_ ≠ none ∧
          ∃ ids, resolveFrom r parent (chain ++ [parent.name]) = .ok (flat, names, ids))) ∧
      stepClash flat uc = [] ∧ res = (mergeParent flat uc, names, flat.stepIds) := by
  have hext : ∀ parent, Extends r uc parent ↔ resolveParent r ref = .ok parent := by
    intro parent
    simp [Extends, h, resolveParent_eq_ok]
  simp only [hext]
  rw [resolveFrom, h]
  simp only
  split
  · rename_i e he
    simp [he]
  · rename_i parent hparent
    simp only [hparent, Except.ok.injEq]
    split
    · rename_i hname
      constructor
      · intro hfalse
        cases hfalse
      · rintro ⟨_, _, _, rfl, hnot, -⟩
        exact absurd hname hnot
    · rename_i hname
      cases hroot : parent.extends_ with
      | none =>
        simp only [pure_eq_ok, ok_bind, bind_eq_ok, require_eq_ok, Except.ok.injEq]
        constructor
        · rintro ⟨-, hclash, rfl⟩
          exact ⟨parent, parent, _, rfl, hname, Or.inl ⟨hroot, rfl, rfl⟩, hclash, rfl⟩
        · rintro ⟨_, flat, names, rfl, -, ⟨-, rfl, rfl⟩ | ⟨hne, -⟩, hclash, rfl⟩
          · exact ⟨(), hclash, rfl⟩
          · exact absurd hroot hne
      | some ref' =>
        simp only [pure_eq_ok, bind_eq_ok, require_eq_ok, Except.ok.injEq]
        constructor
        · rintro ⟨⟨flat, names, ids⟩, hrec, _, rfl, -, hclash, rfl⟩
          exact ⟨parent, flat, names, rfl, hname, Or.inr ⟨by simp [hroot], ids, hrec⟩, hclash, rfl⟩
        · rintro ⟨_, flat, names, rfl, -, ⟨hnone, -⟩ | ⟨-, ids, hrec⟩, hclash, rfl⟩
          · rw [hroot] at hnone
            cases hnone
          · exact ⟨_, hrec, _, rfl, (), hclash, rfl⟩

/-- The chain that a flattening follows, and the names that it adds to those it was called with. -/
structure Follows (r : SpecRegistry) (uc : UseCaseSpec) (chain : List String)
    (ancestors : List UseCaseSpec) : Prop where
  ends : ExtendsChain r uc ancestors
  fresh : ∀ ancestor ∈ ancestors, ancestor.name ∉ chain
  nodup : (ancestors.map UseCaseSpec.name).Nodup
  apart : StepsApart (uc :: ancestors)

omit [ReprStrings] in
theorem follows_cons : Follows r uc chain (parent :: ancestors) ↔ Extends r uc parent ∧
    parent.name ∉ chain ∧ Follows r parent (chain ++ [parent.name]) ancestors ∧
      stepClash (flatten parent ancestors) uc = [] := by
  constructor
  · rintro ⟨⟨⟩ | ⟨hext, hchain⟩, hfresh, hnodup, hapart⟩
    rw [List.map_cons, List.nodup_cons] at hnodup
    rw [stepsApart_cons] at hapart
    refine ⟨hext, hfresh parent (by simp), ⟨hchain, ?_, hnodup.2, hapart.2⟩, hapart.1⟩
    intro ancestor hancestor
    rw [List.mem_append, List.mem_singleton, not_or]
    refine ⟨hfresh ancestor (List.mem_cons_of_mem _ hancestor), ?_⟩
    intro hname
    exact hnodup.1 (hname ▸ List.mem_map_of_mem hancestor)
  · rintro ⟨hext, hname, ⟨hchain, hfresh, hnodup, hapart⟩, hclash⟩
    simp only [List.mem_append, List.mem_singleton, not_or] at hfresh
    refine ⟨.extend hext hchain, ?_, ?_, stepsApart_cons.mpr ⟨hclash, hapart⟩⟩
    · intro ancestor hancestor
      rcases List.mem_cons.mp hancestor with rfl | hmem
      · exact hname
      · exact (hfresh ancestor hmem).1
    · rw [List.map_cons, List.nodup_cons]
      refine ⟨?_, hnodup⟩
      intro hmem
      obtain ⟨ancestor, hancestor, heq⟩ := List.mem_map.mp hmem
      exact (hfresh ancestor hancestor).2 heq

omit [ReprStrings] in
theorem follows_nil (h : uc.extends_ = none) : Follows r uc chain [] :=
  ⟨.root h, by simp, by simp, by simp [StepsApart]⟩

omit [ReprStrings] in
theorem ExtendsChain.eq_nil_iff (h : ExtendsChain r uc ancestors) :
    ancestors = [] ↔ uc.extends_ = none := by
  cases h with
  | root h => simp [h]
  | extend h =>
    obtain ⟨ref, href, -⟩ := h
    simp [href]

/-- A use case that extends another is flattened exactly when its chain ends, no name comes twice
and no two members share a step id. The recursion is by the names that are left. -/
theorem resolveFrom_eq_ok (h : uc.extends_ ≠ none) :
    resolveFrom r uc chain = .ok res ↔ ∃ ancestors, Follows r uc chain ancestors ∧
      res = (flatten uc ancestors, chain ++ ancestors.map UseCaseSpec.name,
        parentStepIds ancestors) := by
  induction hn : (namesLeft r chain).length using Nat.strong_induction_on
    generalizing uc chain res with
  | _ n ih =>
    subst hn
    obtain ⟨ref, href⟩ := Option.ne_none_iff_exists'.mp h
    rw [resolveFrom_extends href]
    constructor
    · rintro ⟨parent, flat, names, hext, hname, hparent, hclash, rfl⟩
      rcases hparent with ⟨hroot, rfl, rfl⟩ | ⟨hne, ids, hrec⟩
      · exact ⟨[flat], follows_cons.mpr ⟨hext, hname, follows_nil hroot, hclash⟩, rfl⟩
      · obtain ⟨ref', href', hres⟩ := hext
        have hlt := length_namesLeft_lt
          (mem_usecases_of_resolveParent (resolveParent_eq_ok.mpr hres)) hname
        obtain ⟨ancestors, hfollows, heq⟩ := (ih _ hlt hne rfl).mp hrec
        simp only [Prod.mk.injEq] at heq
        obtain ⟨rfl, rfl, -⟩ := heq
        exact ⟨parent :: ancestors,
          follows_cons.mpr ⟨⟨ref', href', hres⟩, hname, hfollows, hclash⟩, by
            simp [flatten, parentStepIds]⟩
    · rintro ⟨ancestors, hfollows, rfl⟩
      cases ancestors with
      | nil => exact absurd (hfollows.ends.eq_nil_iff.mp rfl) h
      | cons parent ancestors =>
        obtain ⟨hext, hname, hfollows, hclash⟩ := follows_cons.mp hfollows
        refine ⟨parent, flatten parent ancestors, chain ++ (parent :: ancestors).map UseCaseSpec.name,
          hext, hname, ?_, hclash, rfl⟩
        by_cases hroot : parent.extends_ = none
        · obtain rfl := hfollows.ends.eq_nil_iff.mpr hroot
          exact Or.inl ⟨hroot, rfl, rfl⟩
        · obtain ⟨ref', href', hres⟩ := hext
          have hlt := length_namesLeft_lt
            (mem_usecases_of_resolveParent (resolveParent_eq_ok.mpr hres)) hname
          refine Or.inr ⟨hroot, parentStepIds ancestors, ?_⟩
          rw [ih _ hlt hroot rfl]
          exact ⟨ancestors, hfollows, by simp⟩

omit [ReprStrings] in
theorem follows_iff : Follows r uc [uc.name] ancestors ↔ ExtendsChain r uc ancestors ∧
    ((uc :: ancestors).map UseCaseSpec.name).Nodup ∧ StepsApart (uc :: ancestors) := by
  rw [List.map_cons, List.nodup_cons]
  constructor
  · rintro ⟨hends, hfresh, hnodup, hapart⟩
    refine ⟨hends, ⟨?_, hnodup⟩, hapart⟩
    intro hmem
    obtain ⟨ancestor, hancestor, hname⟩ := List.mem_map.mp hmem
    exact hfresh ancestor hancestor (by simp [hname])
  · rintro ⟨hends, ⟨hnot, hnodup⟩, hapart⟩
    refine ⟨hends, fun ancestor hancestor hmem => hnot ?_, hnodup, hapart⟩
    rw [← List.mem_singleton.mp hmem]
    exact List.mem_map_of_mem hancestor

theorem resolveExtends_eq_ok (h : uc.extends_ ≠ none) : resolveExtends r uc = .ok res ↔
    ∃ ancestors, Follows r uc [uc.name] ancestors ∧
      res = (flatten uc ancestors, (uc :: ancestors).map UseCaseSpec.name,
        parentStepIds ancestors) :=
  resolveFrom_eq_ok h

/-- `resolve_extends` returns exactly on the use cases whose chain ends, with distinct names and
with step ids of their own. -/
theorem resolveExtends_returns : (∃ res, resolveExtends r uc = .ok res) ↔
    ∃ ancestors, Follows r uc [uc.name] ancestors := by
  by_cases h : uc.extends_ = none
  · exact ⟨fun _ => ⟨[], follows_nil h⟩, fun _ => ⟨_, resolveFrom_root h⟩⟩
  · constructor
    · rintro ⟨res, hres⟩
      obtain ⟨ancestors, hfollows, -⟩ := (resolveExtends_eq_ok h).mp hres
      exact ⟨ancestors, hfollows⟩
    · rintro ⟨ancestors, hfollows⟩
      exact ⟨_, (resolveExtends_eq_ok h).mpr ⟨ancestors, hfollows, rfl⟩⟩

/-! ### What a flattened use case holds -/

/-- No list of the use case names an entry twice. -/
structure UseCaseSpec.NoRepeats (uc : UseCaseSpec) : Prop where
  requires : (uc.requires.map ComponentRequirement.ref).Nodup
  preconditions : (uc.preconditions.map id).Nodup
  assumedPreconditions : (uc.assumedPreconditions.map id).Nodup
  postconditions : (uc.postconditions.map id).Nodup
  invariants : (uc.invariants.map invariantReference).Nodup

/-- The trigger, unless it is empty. -/
def UseCaseSpec.trigger? (uc : UseCaseSpec) : Option String := uc.trigger.filter fun text => text ≠ ""

/-- The fields that composition merges: the sequences are joined from the root ancestor on, and the
unions keep the first of each entry. The child's values win. -/
structure Merges (uc : UseCaseSpec) (ancestors : List UseCaseSpec) (flat : UseCaseSpec) : Prop where
  metadata : flat.metadata = uc.metadata
  steps : flat.steps = (uc :: ancestors).reverse.flatMap UseCaseSpec.steps
  alternativeFlows :
    flat.alternativeFlows = (uc :: ancestors).reverse.flatMap UseCaseSpec.alternativeFlows
  concurrency : flat.concurrency = (uc :: ancestors).reverse.flatMap UseCaseSpec.concurrency
  preconditions :
    flat.preconditions = firstOf id ((uc :: ancestors).reverse.flatMap UseCaseSpec.preconditions)
  postconditions :
    flat.postconditions = firstOf id ((uc :: ancestors).reverse.flatMap UseCaseSpec.postconditions)
  invariants : flat.invariants =
    firstOf invariantReference ((uc :: ancestors).reverse.flatMap UseCaseSpec.invariants)
  requires : flat.requires =
    firstOf ComponentRequirement.ref ((uc :: ancestors).reverse.flatMap UseCaseSpec.requires)
  trigger : flat.trigger? = (uc :: ancestors).findSome? UseCaseSpec.trigger?
  inputFromEvent : ∀ key, flat.inputFromEvent.get? key =
    (uc :: ancestors).findSome? fun member => member.inputFromEvent.get? key

/-- A flattening that loses nothing: the merged fields, every assumed precondition, the child's
`terminal`, the names from the root ancestor to the child and the inherited step ids. -/
structure Flattens (uc : UseCaseSpec) (ancestors : List UseCaseSpec) (flat : UseCaseSpec)
    (names ids : List String) : Prop extends Merges uc ancestors flat where
  assumedPreconditions : flat.assumedPreconditions =
    firstOf id ((uc :: ancestors).reverse.flatMap UseCaseSpec.assumedPreconditions)
  terminal : flat.terminal = uc.terminal
  names : names = (uc :: ancestors).reverse.map UseCaseSpec.name
  ids : ids = ancestors.reverse.flatMap UseCaseSpec.stepIds

omit [ReprStrings] in
theorem filter_orElse (first second : Option String) :
    (orElse first second).filter (fun text => text ≠ "") =
      ((first.filter fun text => text ≠ "").or (second.filter fun text => text ≠ "")) := by
  cases first with
  | none => simp [orElse]
  | some text =>
    by_cases h : text = ""
    · simp [orElse, h, Option.filter]
    · simp [orElse, h, Option.filter]

omit [ReprStrings] in
theorem firstOf_unite {α κ : Type} [DecidableEq κ] {key : α → κ} {parents items more : List α}
    (h : parents = firstOf key items) (hmore : (more.map key).Nodup) :
    unite key parents more = firstOf key (items ++ more) := by
  rw [h, firstOf_append hmore]

omit [ReprStrings] in
/-- The merged fields, by induction on the chain: each level puts its parents before itself. -/
theorem merges_flatten (h : ∀ member ∈ uc :: ancestors, member.NoRepeats) :
    Merges uc ancestors (flatten uc ancestors) := by
  induction ancestors generalizing uc with
  | nil =>
    have huc := h uc (by simp)
    constructor
    all_goals simp only [flatten, List.reverse_cons, List.reverse_nil, List.nil_append,
      List.flatMap_cons, List.flatMap_nil, List.append_nil, List.findSome?_cons,
      List.findSome?_nil]
    · rw [firstOf_eq_self huc.preconditions]
    · rw [firstOf_eq_self huc.postconditions]
    · rw [firstOf_eq_self huc.invariants]
    · rw [firstOf_eq_self huc.requires]
    · cases uc.trigger? <;> rfl
    · intro key
      cases uc.inputFromEvent.get? key <;> rfl
  | cons parent ancestors ih =>
    have huc := h uc (by simp)
    have hparent : Merges parent ancestors (flatten parent ancestors) :=
      ih fun member hmember => h member (List.mem_cons_of_mem _ hmember)
    have happend : ∀ {β : Type} (f : UseCaseSpec → List β),
        (uc :: parent :: ancestors).reverse.flatMap f =
          (parent :: ancestors).reverse.flatMap f ++ f uc := by
      intro β f
      rw [List.reverse_cons, List.flatMap_append]
      simp
    constructor
    · rfl
    · rw [happend, ← hparent.steps]
      rfl
    · rw [happend, ← hparent.alternativeFlows]
      rfl
    · rw [happend, ← hparent.concurrency]
      rfl
    · rw [happend, ← firstOf_unite hparent.preconditions huc.preconditions]
      rfl
    · rw [happend, ← firstOf_unite hparent.postconditions huc.postconditions]
      rfl
    · rw [happend, ← firstOf_unite hparent.invariants huc.invariants]
      rfl
    · rw [happend, ← firstOf_unite hparent.requires huc.requires]
      rfl
    · rw [List.findSome?_cons, ← hparent.trigger, UseCaseSpec.trigger?, flatten, mergeParent,
        filter_orElse]
      change uc.trigger?.or (flatten parent ancestors).trigger? = _
      cases uc.trigger? <;> rfl
    · intro key
      rw [List.findSome?_cons, ← hparent.inputFromEvent, flatten, mergeParent, Dict.get?_update]
      cases uc.inputFromEvent.get? key <;> rfl

omit [ReprStrings] in
theorem parentStepIds_eq : parentStepIds ancestors =
    ancestors.reverse.flatMap UseCaseSpec.stepIds := by
  cases ancestors with
  | nil => rfl
  | cons parent ancestors => exact stepIds_flatten

omit [ReprStrings] in
theorem names_ne_reverse (hne : ancestors ≠ [])
    (hnodup : ((uc :: ancestors).map UseCaseSpec.name).Nodup) :
    (uc :: ancestors).map UseCaseSpec.name ≠ (uc :: ancestors).reverse.map UseCaseSpec.name := by
  intro heq
  obtain ⟨first, last, rfl⟩ := List.eq_nil_or_concat ancestors |>.resolve_left hne
  rw [List.map_cons, List.nodup_cons] at hnodup
  rw [List.concat_eq_append] at heq hnodup
  rw [List.reverse_cons, List.reverse_append, List.map_cons] at heq
  simp only [List.reverse_cons, List.reverse_nil, List.nil_append, List.cons_append,
    List.map_cons, List.cons.injEq] at heq
  exact hnodup.1 (heq.1 ▸ List.mem_map_of_mem (by simp))

/-- On a chain of two or more use cases `resolve_extends` merges every field but two: the assumed
preconditions and `terminal` of the flattened use case are the defaults, and the names come from
the child to the root. It returns exactly when the chain ends and nothing in it clashes. -/
theorem resolveExtends_merges (r : SpecRegistry) (uc : UseCaseSpec) :
    ((∃ res, resolveExtends r uc = .ok res) ↔ ∃ ancestors, ExtendsChain r uc ancestors ∧
      ((uc :: ancestors).map UseCaseSpec.name).Nodup ∧ StepsApart (uc :: ancestors)) ∧
    ∀ ancestors, ancestors ≠ [] → ExtendsChain r uc ancestors →
      ((uc :: ancestors).map UseCaseSpec.name).Nodup → StepsApart (uc :: ancestors) →
      (∀ member ∈ uc :: ancestors, member.NoRepeats) →
      ∃ flat names ids, resolveExtends r uc = .ok (flat, names, ids) ∧
        ¬Flattens uc ancestors flat names ids ∧
        Merges uc ancestors flat ∧ flat.assumedPreconditions = [] ∧ flat.terminal = false ∧
        names = (uc :: ancestors).map UseCaseSpec.name ∧
        ids = ancestors.reverse.flatMap UseCaseSpec.stepIds := by
  constructor
  · rw [resolveExtends_returns]
    exact exists_congr fun ancestors => follows_iff
  · intro ancestors hne hends hnodup hapart hrepeats
    have hextends : uc.extends_ ≠ none := fun h => hne (hends.eq_nil_iff.mpr h)
    have hres := (resolveExtends_eq_ok hextends).mpr
      ⟨ancestors, follows_iff.mpr ⟨hends, hnodup, hapart⟩, rfl⟩
    refine ⟨_, _, _, hres, ?_, merges_flatten hrepeats, ?_, ?_, rfl, parentStepIds_eq⟩
    · exact fun hflattens => names_ne_reverse hne hnodup hflattens.names
    · cases ancestors with
      | nil => exact absurd rfl hne
      | cons parent ancestors => rfl
    · cases ancestors with
      | nil => exact absurd rfl hne
      | cons parent ancestors => rfl

end Resolve

namespace Sample

/-- `str` of a list of strings that need no escape -/
scoped instance : ReprStrings := ⟨fun items => "['" ++ "', '".intercalate items ++ "']"⟩

def emptyStep (id use : String) : StepDef := { id := id, use := use }

/-- A parent that assumes that its user is known. -/
def order : UseCaseSpec :=
  { metadata := { name := "order" }, assumedPreconditions := ["user is known"],
    steps := [emptyStep "pay" "actions/pay"], postconditions := ["paid"] }

/-- A child that ends the flow. -/
def giftOrder : UseCaseSpec :=
  { metadata := { name := "gift-order" }, extends_ := some "$ref:use-cases/order",
    steps := [emptyStep "wrap" "actions/wrap"], postconditions := ["paid", "wrapped"],
    terminal := true }

/-- The registry after `register(order)` and `register(gift_order)`. -/
def orders : SpecRegistry :=
  match SpecRegistry.empty.register (.usecase order) with
  | .ok r =>
    match r.register (.usecase giftOrder) with
    | .ok r => r
    | .error _ => .empty
  | .error _ => .empty

theorem extendsChain_giftOrder : ExtendsChain orders giftOrder [order] :=
  .extend ⟨"$ref:use-cases/order", rfl, rfl⟩ (.root rfl)

theorem stepsApart_giftOrder : StepsApart [giftOrder, order] := by
  rw [stepsApart_cons]
  exact ⟨by decide +kernel, by simp [StepsApart]⟩

theorem noRepeats_giftOrder : ∀ member ∈ [giftOrder, order], member.NoRepeats := by
  intro member hmember
  rw [List.mem_cons, List.mem_singleton] at hmember
  rcases hmember with rfl | rfl
  · constructor <;> simp [giftOrder]
  · constructor <;> simp [order]

theorem resolveExtends_merges_sample :
    ∃ flat names ids, resolveExtends orders giftOrder = .ok (flat, names, ids) ∧
      ¬Flattens giftOrder [order] flat names ids ∧ Merges giftOrder [order] flat ∧
      flat.assumedPreconditions = [] ∧ flat.terminal = false ∧
      names = ["gift-order", "order"] ∧ ids = ["pay"] :=
  (resolveExtends_merges orders giftOrder).2 [order] (by simp) extendsChain_giftOrder
    (by decide +kernel) stepsApart_giftOrder noRepeats_giftOrder

/-- The assumed precondition of the parent and the child's `terminal` are lost, and the names come
from the child to the root. -/
theorem giftOrder_not_flattened : ∃ flat names ids,
    resolveExtends orders giftOrder = .ok (flat, names, ids) ∧
      "user is known" ∉ flat.assumedPreconditions ∧ flat.terminal ≠ giftOrder.terminal ∧
      names = ["gift-order", "order"] ∧ ¬Flattens giftOrder [order] flat names ids := by
  have hres := (resolveExtends_eq_ok (by simp [giftOrder])).mpr ⟨[order], follows_iff.mpr
    ⟨extendsChain_giftOrder, by decide +kernel, stepsApart_giftOrder⟩, rfl⟩
  refine ⟨_, _, _, hres, by simp [flatten, mergeParent], by simp [flatten, mergeParent, giftOrder],
    rfl, ?_⟩
  intro hflattens
  exact absurd hflattens.terminal (by simp [flatten, mergeParent, giftOrder])

end Sample

end Ucf.Spec
