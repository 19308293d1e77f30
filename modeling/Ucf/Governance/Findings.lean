import Ucf.Change.DeltaApplied
import Ucf.Governance.Compatibility
import Ucf.Ir.PlainKeys
import Ucf.Library.Collect

/-! The direct findings of an impact report: for each entry of a delta the paths at which the two
canonical definitions of its entity differ. -/

namespace Ucf

/-! ### Findings -/

/-- `ImpactFieldPath` -/
abbrev ImpactFieldPath : Type := Checked (stringConstraints 0 (some 2048) fun _ => true)

/-- `ImpactSubject.operation` -/
inductive ImpactOperation where
  | added
  | modified
  | removed
  | unchanged
deriving DecidableEq, Repr

structure ImpactSubject where
  operation : ImpactOperation
  targetKind : EntityKind
  targetId : Identifier
deriving DecidableEq

/-- `ImpactPrecision` -/
inductive ImpactPrecision where
  | definite
  | mayAffect
  | unresolved
deriving DecidableEq, Repr

/-- `ImpactFinding.validate_changed_paths` -/
def validateChangedPaths (changedPaths : List String) : Except String Unit := do
  require changedPaths.Nodup "impact finding contains duplicate changed paths"
  require (changedPaths = sortedBy id changedPaths)
    "impact finding changed paths are not canonical"

structure ImpactFinding where
  subject : ImpactSubject
  precision : ImpactPrecision
  changedPaths : List ImpactFieldPath
  nonempty : 1 ≤ changedPaths.length
  valid : validateChangedPaths (changedPaths.map Subtype.val) = .ok ()

/-- What building a finding raises: `KeyError`, or the model's own. -/
inductive FindingError where
  | keyError
  | validation (issues : List Issue)

namespace ImpactFinding

/-- The texts of the changed paths. -/
def paths (finding : ImpactFinding) : List String := finding.changedPaths.map Subtype.val

/-- `ImpactFinding(...)` -/
def make (subject : ImpactSubject) (precision : ImpactPrecision) (changedPaths : List String) :
    Except FindingError ImpactFinding := do
  let changedPaths ← (under (.name "changed_paths")
    (Schema.loadItems modelValidate 0 (changedPaths.map Json.str))).mapError .validation
  if hnonempty : 1 ≤ changedPaths.length then
    if hvalid : validateChangedPaths (changedPaths.map Subtype.val) = .ok () then
      pure ⟨subject, precision, changedPaths, hnonempty, hvalid⟩
    else throw (.validation [⟨"value_error", []⟩])
  else throw (.validation [⟨"too_short", [.name "changed_paths"]⟩])

end ImpactFinding

/-- `_field_changes` -/
def fieldChanges (base final : Json) (path : String) : List String :=
  Json.changes (fun path c => path ++ "/" ++ Json.token c) base final path

/-- The changed paths of a modified entry. -/
def modifiedPaths (entry : ModifiedBehavior) (base final : Json) : List String :=
  let changedPaths := fieldChanges base final ""
  if entry.baseIsRoot ≠ entry.finalIsRoot then sortedBy id (changedPaths ++ ["/@root"])
  else changedPaths

/-- `_direct_finding` -/
def directFinding (baseEntities finalEntities : Dict EntityRef Json)
    (entry : BehaviorDeltaEntry) : Except FindingError ImpactFinding :=
  match entry with
  | .added entry => ImpactFinding.make
    ⟨.added, entry.finalSubject.targetKind, entry.finalSubject.targetId⟩ .definite [""]
  | .removed entry => ImpactFinding.make
    ⟨.removed, entry.baseSubject.targetKind, entry.baseSubject.targetId⟩ .definite [""]
  | .modified entry => do
    let key : EntityRef := ⟨entry.baseSubject.targetKind, entry.baseSubject.targetId⟩
    let base ← orRaise (baseEntities.get? key) .keyError
    let final ← orRaise (finalEntities.get? key) .keyError
    ImpactFinding.make ⟨.modified, key.targetKind, key.targetId⟩ .definite
      (modifiedPaths entry base final)

/-- `findings` of `derive_impact_report` -/
def directFindings (delta : BehaviorDelta) (baseBehavior finalBehavior : BehaviorIR) :
    Except FindingError (List ImpactFinding) :=
  collect (directFinding (canonicalEntitiesAndRoots baseBehavior).1
    (canonicalEntitiesAndRoots finalBehavior).1) delta.entries.val

/-! ### What a finding takes -/

theorem validateChangedPaths_eq_ok {paths : List String} {u : Unit} :
    validateChangedPaths paths = .ok u ↔ paths.Pairwise (· < ·) := by
  simp only [validateChangedPaths, bind_eq_ok, require_eq_ok, exists_const]
  exact nodup_and_eq_sortedBy_iff

namespace ImpactFinding

variable {subject : ImpactSubject} {precision : ImpactPrecision} {texts : List String}

theorem paths_sorted (finding : ImpactFinding) : finding.paths.Pairwise (· < ·) :=
  validateChangedPaths_eq_ok.mp finding.valid

theorem make_eq_ok {finding : ImpactFinding} : make subject precision texts = .ok finding ↔
    finding.subject = subject ∧ finding.precision = precision ∧ finding.paths = texts := by
  simp only [make, bind_eq_ok, mapError_eq_ok, under_eq_ok, loadItems_checked_eq_ok]
  constructor
  · rintro ⟨changedPaths, rfl, h⟩
    split at h
    · split at h
      · cases h
        exact ⟨rfl, rfl, rfl⟩
      · cases h
    · cases h
  · rintro ⟨rfl, rfl, rfl⟩
    exact ⟨finding.changedPaths, rfl, by rw [dif_pos finding.nonempty, dif_pos finding.valid]; rfl⟩

theorem exists_make : (∃ finding, make subject precision texts = .ok finding) ↔
    texts ≠ [] ∧ (∀ text ∈ texts, text.length ≤ 2048) ∧ texts.Pairwise (· < ·) := by
  simp only [make_eq_ok]
  constructor
  · rintro ⟨finding, rfl, rfl, rfl⟩
    refine ⟨?_, fun text htext => ?_, finding.paths_sorted⟩
    · rw [paths, Ne, List.map_eq_nil_iff]
      exact List.ne_nil_of_length_pos finding.nonempty
    · obtain ⟨path, -, rfl⟩ := List.mem_map.mp htext
      rw [← String.length_toList]
      exact (lengthConstraints_eq_none.mp path.property).2
  · rintro ⟨hne, hlength, hsorted⟩
    obtain ⟨changedPaths, htexts⟩ : ∃ changedPaths : List ImpactFieldPath,
        changedPaths.map Subtype.val = texts := by
      refine exists_checked fun text htext => lengthConstraints_eq_none.mpr ⟨Nat.zero_le _, ?_⟩
      rw [String.length_toList]
      exact hlength text htext
    have hnonempty : 1 ≤ changedPaths.length := by
      rw [← List.length_map Subtype.val, htexts]
      exact List.length_pos_of_ne_nil hne
    have hvalid : validateChangedPaths (changedPaths.map Subtype.val) = .ok () := by
      rw [htexts]
      exact validateChangedPaths_eq_ok.mpr hsorted
    exact ⟨⟨subject, precision, changedPaths, hnonempty, hvalid⟩, rfl, rfl, htexts⟩

end ImpactFinding

/-! ### The paths of a modified entry -/

section Paths

variable {base final : Json} {entry : ModifiedBehavior}

theorem fieldChanges_eq : fieldChanges base final "" =
    (Json.differences base final).map Json.pointer :=
  Json.changes_eq_map

/-- A path is reported: the pointer of a difference, or the mark of the root. -/
def Reported (entry : ModifiedBehavior) (base final : Json) (path : String) : Prop :=
  (∃ position, Json.DiffersAt base final position ∧ path = Json.pointer position) ∨
    path = "/@root" ∧ entry.baseIsRoot ≠ entry.finalIsRoot

theorem mem_fieldChanges {path : String} : path ∈ fieldChanges base final "" ↔
    ∃ position, Json.DiffersAt base final position ∧ path = Json.pointer position := by
  simp only [fieldChanges_eq, List.mem_map, Json.mem_differences, eq_comm]

theorem mem_modifiedPaths {path : String} :
    path ∈ modifiedPaths entry base final ↔ Reported entry base final path := by
  rw [modifiedPaths, Reported]
  split
  · rename_i hroot
    rw [mem_sortedBy, List.mem_append, mem_fieldChanges, List.mem_singleton, and_iff_left hroot]
  · rename_i hroot
    rw [mem_fieldChanges]
    simp [hroot]

theorem root_notMem_fieldChanges (hbase : base.PlainKeys) (hfinal : final.PlainKeys) :
    "/@root" ∉ fieldChanges base final "" := by
  rw [mem_fieldChanges]
  rintro ⟨position, hdiffers, hpointer⟩
  have hnot := Json.at_notMem_pointer (hdiffers.plain hbase hfinal)
  rw [← hpointer] at hnot
  exact hnot (by decide)

theorem nodup_modifiedPaths (hbase : base.PlainKeys) (hfinal : final.PlainKeys) :
    (modifiedPaths entry base final).Nodup := by
  have hnodup : (fieldChanges base final "").Nodup := by
    rw [fieldChanges_eq]
    exact Json.pointers_nodup hbase hfinal
  rw [modifiedPaths]
  split
  · rw [(sortedBy_perm id _).nodup_iff, List.nodup_append]
    refine ⟨hnodup, List.nodup_singleton _, fun path hpath root hroot heq => ?_⟩
    rw [heq, List.mem_singleton.mp hroot] at hpath
    exact root_notMem_fieldChanges hbase hfinal hpath
  · exact hnodup

theorem modifiedPaths_sorted_iff (hbase : base.PlainKeys) (hfinal : final.PlainKeys) :
    (modifiedPaths entry base final).Pairwise (· < ·) ↔
      entry.baseIsRoot ≠ entry.finalIsRoot ∨ Json.IndexesOrdered base final := by
  have hnodup := @nodup_modifiedPaths base final entry hbase hfinal
  by_cases hroot : entry.baseIsRoot ≠ entry.finalIsRoot
  · refine iff_of_true ?_ (.inl hroot)
    rw [← nodup_and_eq_sortedBy_iff]
    refine ⟨hnodup, ?_⟩
    rw [modifiedPaths, if_pos hroot, sortedBy_sortedBy]
  · rw [or_iff_right hroot, ← Json.pointers_sorted_iff hbase hfinal, ← fieldChanges_eq,
      modifiedPaths, if_neg hroot]

end Paths

/-! ### The findings of a delta -/

section Findings

variable [Hashlib] {base final : BehaviorIR} {entry : ModifiedBehavior}

omit [Hashlib] in
/-- The finding of a modified entry is exact: its paths are those at which the encodings differ and
the mark of a changed root, without repetition and sorted. -/
structure ExactFinding (base final : BehaviorIR) (entry : ModifiedBehavior)
    (finding : ImpactFinding) : Prop where
  subject : finding.subject =
    ⟨.modified, entry.baseSubject.targetKind, entry.baseSubject.targetId⟩
  paths : ∃ old new, base.definition? (BehaviorDeltaEntry.modified entry).subjectKey = some old ∧
    final.definition? (BehaviorDeltaEntry.modified entry).subjectKey = some new ∧
    ∀ path, path ∈ finding.paths ↔ Reported entry (modelDump old) (modelDump new) path
  nodup : finding.paths.Nodup
  sorted : finding.paths = sortedBy id finding.paths

omit [Hashlib] in
/-- The changed paths of a modified entry can be told: the root membership changed or indexes at
which the encodings differ are in order as texts, and no path is too long. -/
structure Tellable (base final : BehaviorIR) (entry : ModifiedBehavior) : Prop where
  ordered : entry.baseIsRoot ≠ entry.finalIsRoot ∨ ∀ old new,
    base.definition? (BehaviorDeltaEntry.modified entry).subjectKey = some old →
    final.definition? (BehaviorDeltaEntry.modified entry).subjectKey = some new →
    Json.IndexesOrdered (modelDump old) (modelDump new)
  short : ∀ old new, base.definition? (BehaviorDeltaEntry.modified entry).subjectKey = some old →
    final.definition? (BehaviorDeltaEntry.modified entry).subjectKey = some new →
    ∀ position, Json.DiffersAt (modelDump old) (modelDump new) position →
      (Json.pointer position).length ≤ 2048

theorem exists_difference_of_changed {key : EntityRef} {old new : Entity}
    (hmodifies : Modifies base final key entry) (hchanged : Changed base final key)
    (hold : base.definition? key = some old) (hnew : final.definition? key = some new) :
    modifiedPaths entry (modelDump old) (modelDump new) ≠ [] := by
  rw [Ne, List.eq_nil_iff_forall_not_mem]
  intro hnone
  rcases hchanged.differs with hdefinition | hroot
  · have hsame : (modelDump old).Same (modelDump new) := by
      refine Json.same_of_not_differsAt (Model.schema.exact old) (Model.schema.exact new) ?_
      intro position hdiffers
      exact hnone _ (mem_modifiedPaths.mpr (.inl ⟨position, hdiffers, rfl⟩))
    rw [hold, hnew, modelDump_injective hsame] at hdefinition
    exact hdefinition rfl
  · refine hnone "/@root" (mem_modifiedPaths.mpr (.inr ⟨rfl, ?_⟩))
    rw [hmodifies.baseIsRoot, hmodifies.finalIsRoot, Ne, decide_eq_decide]
    exact hroot

/-- What an accepted delta is. -/
theorem wellFormed_of_validateBehaviorDelta [PyYaml] [HashlibBytes] {proposal : ChangeProposal}
    {delta : BehaviorDelta} (h : validateBehaviorDelta delta proposal base final = .ok ()) :
    base.WellFormed ∧ final.WellFormed ∧ IsDifference base final delta.entries.val := by
  have hsteps := h
  simp only [validateBehaviorDelta, validateDocumentPair, bind_eq_ok, raising_eq_ok,
    require_eq_ok] at hsteps
  obtain ⟨_, hproposal, _, _, _, ⟨_, _, _, hfinal, hid⟩, -⟩ := hsteps
  have hbase := validateBehaviorDocument_of_validateChangeProposal hproposal
  exact ⟨(validateBehaviorDocument_eq_ok.mp hbase).2, (validateBehaviorDocument_eq_ok.mp hfinal).2,
    ((validateBehaviorDelta_eq_ok hproposal hfinal hid).mp h).2⟩

omit [Hashlib] in
/-- The findings of added and removed entries have one empty path. -/
theorem exists_whole_finding (subject : ImpactSubject) :
    ∃ finding, ImpactFinding.make subject .definite [""] = .ok finding :=
  ImpactFinding.exists_make.mpr ⟨by simp, by simp, by simp⟩

section Modified

variable {key : EntityRef} {old new : Entity} (hbase : base.WellFormed) (hfinal : final.WellFormed)
  (hmodifies : Modifies base final key entry) (hold : base.definition? key = some old)
  (hnew : final.definition? key = some new)
include hbase hfinal hmodifies hold hnew

theorem directFinding_modified :
    directFinding (canonicalEntitiesAndRoots base).1 (canonicalEntitiesAndRoots final).1
        (.modified entry) =
      ImpactFinding.make ⟨.modified, entry.baseSubject.targetKind, entry.baseSubject.targetId⟩
        .definite (modifiedPaths entry (modelDump old) (modelDump new)) := by
  have hkey : (⟨entry.baseSubject.targetKind, entry.baseSubject.targetId⟩ : EntityRef) = key :=
    hmodifies.subjectKey
  have hb : (canonicalEntitiesAndRoots base).1.get?
      ⟨entry.baseSubject.targetKind, entry.baseSubject.targetId⟩ = some (modelDump old) := by
    rw [hbase.get?_canonicalEntities, hkey, hold, Option.map_some]
  have hf : (canonicalEntitiesAndRoots final).1.get?
      ⟨entry.baseSubject.targetKind, entry.baseSubject.targetId⟩ = some (modelDump new) := by
    rw [hfinal.get?_canonicalEntities, hkey, hnew, Option.map_some]
  simp only [directFinding, hb, hf, orRaise_some, ok_bind]

/-- The finding of a modified entry is built exactly when its paths can be told, and it is exact. -/
theorem exists_finding_iff (hchanged : Changed base final key) :
    (∃ finding, directFinding (canonicalEntitiesAndRoots base).1
        (canonicalEntitiesAndRoots final).1 (.modified entry) = .ok finding) ↔
      Tellable base final entry := by
  have hkey := hmodifies.subjectKey
  have holdPlain := PlainModel.plain old
  have hnewPlain := PlainModel.plain new
  rw [directFinding_modified hbase hfinal hmodifies hold hnew, ImpactFinding.exists_make,
    and_iff_right (exists_difference_of_changed hmodifies hchanged hold hnew),
    modifiedPaths_sorted_iff holdPlain hnewPlain]
  simp only [mem_modifiedPaths, Reported]
  constructor
  · rintro ⟨hshort, hordered⟩
    refine ⟨hordered.imp id fun hindexes o n ho hn => ?_, fun o n ho hn position hdiffers => ?_⟩
    · rw [hkey, hold, Option.some.injEq] at ho
      rw [hkey, hnew, Option.some.injEq] at hn
      rw [← ho, ← hn]
      exact hindexes
    · rw [hkey, hold, Option.some.injEq] at ho
      rw [hkey, hnew, Option.some.injEq] at hn
      rw [← ho, ← hn] at hdiffers
      exact hshort _ (.inl ⟨position, hdiffers, rfl⟩)
  · intro h
    rw [← hkey] at hold hnew
    refine ⟨?_, h.ordered.imp id fun hindexes => hindexes old new hold hnew⟩
    rintro path (⟨position, hdiffers, rfl⟩ | ⟨rfl, -⟩)
    · exact h.short old new hold hnew position hdiffers
    · decide

theorem exactFinding_of_eq_ok {finding : ImpactFinding}
    (h : directFinding (canonicalEntitiesAndRoots base).1 (canonicalEntitiesAndRoots final).1
      (.modified entry) = .ok finding) : ExactFinding base final entry finding := by
  rw [directFinding_modified hbase hfinal hmodifies hold hnew, ImpactFinding.make_eq_ok] at h
  obtain ⟨hsubject, -, hpaths⟩ := h
  have hkey := hmodifies.subjectKey
  rw [← hkey] at hold hnew
  have hcanonical := nodup_and_eq_sortedBy_iff.mpr finding.paths_sorted
  refine ⟨hsubject, ⟨old, new, hold, hnew, fun path => ?_⟩, hcanonical.1, hcanonical.2⟩
  rw [hpaths, mem_modifiedPaths]

end Modified

/-- The findings of an accepted delta are built, exactly, when the paths of each modified entry can
be told. -/
theorem findings_exact_iff [PyYaml] [HashlibBytes] {proposal : ChangeProposal}
    {delta : BehaviorDelta} (h : validateBehaviorDelta delta proposal base final = .ok ()) :
    (∃ findings, directFindings delta base final = .ok findings ∧
      List.Forall₂ (fun entry finding => ∀ modified, entry = .modified modified →
        ExactFinding base final modified finding) delta.entries.val findings) ↔
    ∀ modified, .modified modified ∈ delta.entries.val → Tellable base final modified := by
  obtain ⟨hbase, hfinal, hdifference⟩ := wellFormed_of_validateBehaviorDelta h
  have hcommon : ∀ modified, .modified modified ∈ delta.entries.val → ∃ key old new,
      Changed base final key ∧ Modifies base final key modified ∧
        base.definition? key = some old ∧ final.definition? key = some new := by
    intro modified hmem
    obtain ⟨key, hchanged, hmodifies⟩ := (hdifference.modified modified).mp hmem
    obtain ⟨old, hold⟩ := Option.ne_none_iff_exists'.mp hchanged.inBase
    obtain ⟨new, hnew⟩ := Option.ne_none_iff_exists'.mp hchanged.inFinal
    exact ⟨key, old, new, hchanged, hmodifies, hold, hnew⟩
  constructor
  · rintro ⟨findings, hfindings, -⟩ modified hmem
    obtain ⟨key, old, new, hchanged, hmodifies, hold, hnew⟩ := hcommon modified hmem
    rw [← exists_finding_iff hbase hfinal hmodifies hold hnew hchanged]
    obtain ⟨finding, -, hfinding⟩ := exists_of_mem_collect hfindings hmem
    exact ⟨finding, hfinding⟩
  · intro htellable
    refine exists_collect fun entry hentry => ?_
    cases entry with
    | added added =>
      obtain ⟨finding, hfinding⟩ := exists_whole_finding _
      exact ⟨finding, hfinding, by simp⟩
    | removed removed =>
      obtain ⟨finding, hfinding⟩ := exists_whole_finding _
      exact ⟨finding, hfinding, by simp⟩
    | modified modified =>
      obtain ⟨key, old, new, hchanged, hmodifies, hold, hnew⟩ := hcommon modified hentry
      obtain ⟨finding, hfinding⟩ :=
        (exists_finding_iff hbase hfinal hmodifies hold hnew hchanged).mpr
          (htellable modified hentry)
      refine ⟨finding, hfinding, fun modified' heq => ?_⟩
      cases heq
      exact exactFinding_of_eq_ok hbase hfinal hmodifies hold hnew hfinding

end Findings

end Ucf

/-! ### A sample

An effect whose target has eleven path tokens, the third and the eleventh of which change. -/

namespace Ucf.FindingsSample

open Ucf.Sample (behavior effect)
open scoped Ucf.OpenSpecSample Ucf.DeltaSample

def longEffect (third last : SemanticToken) : Effect :=
  { effect with target := ⟨effect.target.subject,
      List.replicate 2 ⟨"part", by decide⟩ ++ [third] ++ List.replicate 7 ⟨"part", by decide⟩ ++
        [last]⟩ }

def oldEffect : Effect := longEffect ⟨"old", by decide⟩ ⟨"old", by decide⟩

def newEffect : Effect := longEffect ⟨"new", by decide⟩ ⟨"new", by decide⟩

def addedSource : Provenance := { Sample.irProvenance with id := ⟨"other", by decide⟩ }

def base : BehaviorIR :=
  { behavior with entities := [.provenance Sample.irProvenance,
      .capabilityRequirement Sample.capability,
      .effect oldEffect] }

def final : BehaviorIR :=
  { behavior with entities := [.provenance Sample.irProvenance,
      .capabilityRequirement Sample.capability,
      .effect newEffect, .provenance addedSource] }

def proposal : ChangeProposal :=
  { OpenSpecSample.proposal with baseBehavior := behaviorDocumentRef base }

theorem validateBehaviorDocument_base (location : String) :
    validateBehaviorDocument base location = .ok () :=
  validateBehaviorDocument_eq_ok.mpr ⟨by unfold BehaviorIR.WithinNesting; decide +kernel,
    validateIrSemantics_eq_ok.mp (show validateIrSemantics base = .ok () by decide +kernel)⟩

theorem validateBehaviorDocument_final (location : String) :
    validateBehaviorDocument final location = .ok () :=
  validateBehaviorDocument_eq_ok.mpr ⟨by unfold BehaviorIR.WithinNesting; decide +kernel,
    validateIrSemantics_eq_ok.mp (show validateIrSemantics final = .ok () by decide +kernel)⟩

theorem validateChangeProposal_proposal : validateChangeProposal proposal base = .ok () := by
  simp only [validateChangeProposal, canonicalChangeLifecycleJson,
    parseChangeProposalJson_canonical, validateBehaviorDocument_base, ok_bind,
    pure_eq_ok, require_eq_ok]
  rfl

/-- The delta of the two documents. -/
theorem exists_delta : ∃ delta, validateBehaviorDelta delta proposal base final = .ok () ∧
    IsDifference base final delta.entries.val := by
  have hdigest : canonicalIrDigest base ≠ canonicalIrDigest final := by decide +kernel
  have hfinal := validateBehaviorDocument_final "$.final_behavior"
  rcases deriveBehaviorDelta_cases validateChangeProposal_proposal hfinal rfl
    fun heq => absurd heq hdigest with ⟨hsame, -⟩ | ⟨-, delta, -, hrefers, hdifference⟩
  · exact absurd hsame (by decide +kernel)
  · exact ⟨delta, (validateBehaviorDelta_eq_ok validateChangeProposal_proposal hfinal rfl).mpr
      ⟨hrefers, hdifference⟩, hdifference⟩

theorem definition_base : base.definition? ⟨.effect, effect.id⟩ = some (.effect oldEffect) := by
  decide +kernel

theorem definition_final : final.definition? ⟨.effect, effect.id⟩ = some (.effect newEffect) := by
  decide +kernel

theorem changed : Changed base final ⟨.effect, effect.id⟩ := by
  refine ⟨?_, ?_, .inl ?_⟩
  · rw [definition_base]
    simp
  · rw [definition_final]
    simp
  · rw [definition_base, definition_final]
    decide +kernel

/-- No findings are built for two changed indexes of which one has more digits. -/
theorem findings_raise : ∃ delta, validateBehaviorDelta delta proposal base final = .ok () ∧
    ¬∃ findings, directFindings delta base final = .ok findings := by
  obtain ⟨delta, hvalid, hdifference⟩ := exists_delta
  refine ⟨delta, hvalid, ?_⟩
  rintro ⟨findings, hfindings⟩
  have hbase := (validateBehaviorDocument_eq_ok.mp (validateBehaviorDocument_base "$")).2
  have hfinal := (validateBehaviorDocument_eq_ok.mp (validateBehaviorDocument_final "$")).2
  obtain ⟨entry, hmem, hmodifies⟩ := hdifference.exists_modified hbase hfinal changed
  obtain ⟨finding, -, hfinding⟩ := exists_of_mem_collect hfindings hmem
  have hroots : entry.baseIsRoot = entry.finalIsRoot := by
    rw [hmodifies.baseIsRoot, hmodifies.finalIsRoot]
    rfl
  rw [directFinding_modified hbase hfinal hmodifies definition_base definition_final,
    ImpactFinding.make_eq_ok, modifiedPaths, if_neg (not_not.mpr hroots)] at hfinding
  have hpaths : fieldChanges (modelDump (Entity.effect oldEffect))
      (modelDump (Entity.effect newEffect)) "" = ["/target/path/2", "/target/path/10"] := by
    decide +kernel
  have hsorted := finding.paths_sorted
  rw [hfinding.2.2, hpaths] at hsorted
  exact absurd hsorted (by decide)

theorem findings_exact_iff_sample :
    ∃ delta, validateBehaviorDelta delta proposal base final = .ok () ∧
      ((∃ findings, directFindings delta base final = .ok findings ∧
        List.Forall₂ (fun entry finding => ∀ modified, entry = .modified modified →
          ExactFinding base final modified finding) delta.entries.val findings) ↔
      ∀ modified, .modified modified ∈ delta.entries.val → Tellable base final modified) := by
  obtain ⟨delta, hvalid, -⟩ := exists_delta
  exact ⟨delta, hvalid, findings_exact_iff hvalid⟩

end Ucf.FindingsSample
