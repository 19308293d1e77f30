import Ucf.Governance.Breaks
import Ucf.Ir.RoundTrip

/-! What the classification of two documents says: when it returns, that a compatible verdict
keeps every environment, and when it reports that an environment is lost. -/

namespace Ucf

section Classified

variable {base final : BehaviorIR}

/-! ### Returning -/

/-- The breaks of the required capabilities can be assessed. -/
structure Assessable (base final : BehaviorIR) : Prop where
  readable : VersionsReadable base final
  ordered : BreaksOrdered base final
  fit : IncreasesFit base final

theorem Verdict.exists_of_make {outcome : CompatibilityOutcome} {profile : CompatibilityProfile}
    {texts : List String} (hne : texts ≠ [])
    (hlength : ∀ text ∈ texts, 1 ≤ text.toList.length ∧ text.toList.length ≤ 2048)
    (hsorted : texts.Pairwise (· < ·)) (hfits : CompatibilityAssessment.Fits outcome profile) :
    ∃ a : CompatibilityAssessment, a.outcome = outcome ∧ a.profile = profile ∧ a.texts = texts := by
  obtain ⟨a, ha⟩ := CompatibilityAssessment.exists_make.mpr ⟨hne, hlength, hsorted, hfits⟩
  exact ⟨a, CompatibilityAssessment.make_eq_ok.mp ha⟩

/-- Lost roots are always assessed. -/
theorem exists_verdict_of_lost (hlost : ¬RootsKept base final) :
    ∃ a, Verdict base final a ∧ a.outcome = .breaking := by
  have hne : (lostRoots base final).map lostRootReason ≠ [] := by
    rw [Ne, List.map_eq_nil_iff, lostRoots_eq_nil_iff]
    exact hlost
  have hlength : ∀ text ∈ (lostRoots base final).map lostRootReason,
      1 ≤ text.toList.length ∧ text.toList.length ≤ 2048 := by
    intro text htext
    obtain ⟨root, -, rfl⟩ := List.mem_map.mp htext
    exact lostRootReason_fits root
  obtain ⟨a, houtcome, hprofile, htexts⟩ := @Verdict.exists_of_make .breaking
    .breakingBaseRootContract _ hne hlength lostRootReasons_sorted (.inl rfl)
  exact ⟨a, .lostRoot hlost houtcome hprofile htexts, houtcome⟩

/-- Breaks of required capabilities are assessed when they can be. -/
theorem exists_verdict_of_breaks (hbase : base.WellFormed) (hfinal : final.WellFormed)
    (hkept : RootsKept base final) (h : Assessable base final)
    (hbreaks : breakReasons base final ≠ []) :
    ∃ a, Verdict base final a ∧ a.outcome = .breaking := by
  obtain ⟨a, houtcome, hprofile, htexts⟩ := @Verdict.exists_of_make .breaking
    .breakingRequiredCapability _ hbreaks ((breakReasons_fit_iff hbase).mpr h.fit)
    ((breakReasons_pairwise_iff hbase hfinal).mpr h.ordered) (.inr rfl)
  exact ⟨a, .breaks hkept h.readable hbreaks houtcome hprofile htexts, houtcome⟩

theorem exists_verdict_of_none (hkept : RootsKept base final)
    (hreadable : VersionsReadable base final) (hbreaks : breakReasons base final = []) :
    ∃ a, Verdict base final a := by
  by_cases hdefinitions : DefinitionsKept base final
  · obtain ⟨a, houtcome, hprofile, htexts⟩ := @Verdict.exists_of_make .compatible
      .backwardCompatibleGraphExtension ["every base entity and root remains byte-exact"]
      (by decide) (by decide) (by simp) rfl
    exact ⟨a, .compatible hkept hreadable hbreaks hdefinitions houtcome hprofile htexts⟩
  · obtain ⟨a, houtcome, hprofile, htexts⟩ := @Verdict.exists_of_make .unresolved
      .compatibilityUnresolved ["existing behavior changed outside the narrow structural profile"]
      (by decide) (by decide) (by simp) rfl
    exact ⟨a, .unresolved hkept hreadable hbreaks hdefinitions houtcome hprofile htexts⟩

/-- Reasons that an assessment took were ordered and short enough. -/
theorem Verdict.assessable {a : CompatibilityAssessment} (h : Verdict base final a)
    (hbase : base.WellFormed) (hfinal : final.WellFormed) (hkept : RootsKept base final) :
    Assessable base final := by
  have hnone : breakReasons base final = [] → BreaksOrdered base final ∧ IncreasesFit base final := by
    intro hbreaks
    rw [← breakReasons_pairwise_iff hbase hfinal, ← breakReasons_fit_iff hbase, hbreaks]
    simp
  cases h with
  | lostRoot hlost => exact absurd hkept hlost
  | breaks _ hreadable _ houtcome hprofile htexts =>
    have hmake := CompatibilityAssessment.exists_make.mp
      ⟨a, CompatibilityAssessment.make_eq_ok.mpr ⟨houtcome, hprofile, htexts⟩⟩
    exact ⟨hreadable, (breakReasons_pairwise_iff hbase hfinal).mp hmake.2.2.1,
      (breakReasons_fit_iff hbase).mp hmake.2.1⟩
  | compatible _ hreadable hbreaks =>
    exact ⟨hreadable, (hnone hbreaks).1, (hnone hbreaks).2⟩
  | unresolved _ hreadable hbreaks =>
    exact ⟨hreadable, (hnone hbreaks).1, (hnone hbreaks).2⟩

/-- The classification returns, with reasons as the model wants them, exactly when a base root is
lost or the breaks of the required capabilities can be assessed. -/
theorem classification_returns_iff (hbase : base.WellFormed) (hfinal : final.WellFormed) :
    (∃ a, compatibilityOf base final = .ok a ∧ a.texts ≠ [] ∧ a.texts.Nodup ∧
      a.texts = sortedBy id a.texts) ↔
    (∃ root ∈ base.roots, root ∉ final.roots) ∨ Assessable base final := by
  have hlost : (∃ root ∈ base.roots, root ∉ final.roots) ↔ ¬RootsKept base final := by
    simp [RootsKept]
  have hcanonical : ∀ a : CompatibilityAssessment, a.texts ≠ [] ∧ a.texts.Nodup ∧
      a.texts = sortedBy id a.texts := fun a =>
    ⟨a.texts_ne_nil, nodup_and_eq_sortedBy_iff.mpr a.texts_sorted⟩
  simp only [hlost, compatibilityOf_eq_ok hbase hfinal]
  constructor
  · rintro ⟨a, ha, -⟩
    by_cases hkept : RootsKept base final
    · exact .inr (ha.assessable hbase hfinal hkept)
    · exact .inl hkept
  · intro h
    by_cases hkept : RootsKept base final
    · have hassessable := h.resolve_left (not_not.mpr hkept)
      by_cases hbreaks : breakReasons base final = []
      · obtain ⟨a, ha⟩ := exists_verdict_of_none hkept hassessable.readable hbreaks
        exact ⟨a, ha, hcanonical a⟩
      · obtain ⟨a, ha, -⟩ := exists_verdict_of_breaks hbase hfinal hkept hassessable hbreaks
        exact ⟨a, ha, hcanonical a⟩
    · obtain ⟨a, ha, -⟩ := exists_verdict_of_lost hkept
      exact ⟨a, ha, hcanonical a⟩

/-! ### Compatible documents -/

theorem DefinitionsKept.mem_entities (h : DefinitionsKept base final) (hbase : base.WellFormed)
    (hfinal : final.WellFormed) {entity : Entity} (hmem : entity ∈ base.entities) :
    ∃ entity' ∈ final.entities, entity'.canonical = entity.canonical := by
  have hcanonical : entity.canonical ∈ base.canonical.entities := by
    rw [BehaviorIR.canonical, mem_sortedBy]
    exact List.mem_map_of_mem hmem
  have hfound := h _ _ (hbase.definition?_eq_some.mpr ⟨hcanonical, rfl⟩)
  have hmem' := (hfinal.definition?_eq_some.mp hfound).1
  rw [BehaviorIR.canonical, mem_sortedBy, List.mem_map] at hmem'
  exact hmem'

theorem DefinitionsKept.mem_capabilities (h : DefinitionsKept base final)
    (hbase : base.WellFormed) (hfinal : final.WellFormed) {c : CapabilityRequirement}
    (hc : c ∈ base.capabilities) : c ∈ final.capabilities := by
  obtain ⟨entity, hentity, hcanonical⟩ :=
    h.mem_entities hbase hfinal (BehaviorIR.mem_capabilities.mp hc)
  have heq : entity = .capabilityRequirement c := by
    cases entity with
    | capabilityRequirement c' => exact hcanonical
    | _ => cases hcanonical
  rw [BehaviorIR.mem_capabilities, ← heq]
  exact hentity

/-- Without breaks, what the final document requires is required before, as it was. -/
theorem mem_base_of_no_breaks (hbase : base.WellFormed) (hfinal : final.WellFormed)
    (hdefinitions : DefinitionsKept base final) (hbreaks : breakReasons base final = [])
    {c : CapabilityRequirement} (hc : c ∈ final.capabilities) (hrequired : c.required = true) :
    c ∈ base.capabilities := by
  by_contra hnot
  refine (breakReasons_ne_nil_iff hbase).mpr ⟨c, hc, hrequired, fun previous hprevious => ?_⟩ hbreaks
  have hmem := hdefinitions.mem_capabilities hbase hfinal hprevious.mem
  have heq := List.inj_on_of_nodup_map hfinal.capability_ids hmem hc hprevious.id_eq
  rw [heq] at hprevious
  exact absurd hprevious.mem hnot

variable [ReprText]

/-- A compatible verdict keeps every entity, every root and every environment. -/
theorem compatible_sound (hbase : base.WellFormed) (hfinal : final.WellFormed)
    {a : CompatibilityAssessment} (ha : compatibilityOf base final = .ok a)
    (hcompatible : a.outcome = .compatible) :
    (∀ entity ∈ base.entities, ∃ entity' ∈ final.entities,
      modelDump entity'.canonical = modelDump entity.canonical) ∧
    (∀ root ∈ base.roots, root ∈ final.roots) ∧
    ∀ available, validateRequiredCapabilities final available = .ok () ↔
      validateRequiredCapabilities base available = .ok () := by
  obtain ⟨hkept, hbreaks, hdefinitions⟩ : RootsKept base final ∧ breakReasons base final = [] ∧
      DefinitionsKept base final := by
    cases (compatibilityOf_eq_ok hbase hfinal).mp ha with
    | compatible hkept _ hbreaks hdefinitions => exact ⟨hkept, hbreaks, hdefinitions⟩
    | lostRoot _ houtcome => cases houtcome.symm.trans hcompatible
    | breaks _ _ _ houtcome => cases houtcome.symm.trans hcompatible
    | unresolved _ _ _ _ houtcome => cases houtcome.symm.trans hcompatible
  refine ⟨fun entity hentity => ?_, hkept, fun available => ?_⟩
  · obtain ⟨entity', hmem, hcanonical⟩ := hdefinitions.mem_entities hbase hfinal hentity
    exact ⟨entity', hmem, by rw [hcanonical]⟩
  · rw [validateRequiredCapabilities_eq_ok, validateRequiredCapabilities_eq_ok]
    constructor
    · intro h c hc hrequired
      exact h c (hdefinitions.mem_capabilities hbase hfinal hc) hrequired
    · intro h c hc hrequired
      exact h c (mem_base_of_no_breaks hbase hfinal hdefinitions hbreaks hc hrequired) hrequired

/-! ### Environments that are lost -/

/-- The base document asks for the capability by the same name, in at least the same version. -/
def AskedBefore (base : BehaviorIR) (c : CapabilityRequirement) : Prop :=
  ∃ previous ∈ base.capabilities, previous.required = true ∧ previous.name = c.name ∧
    versionNumbers c.minimumVersion.val ≤ versionNumbers previous.minimumVersion.val

/-- `int` reads every version that the document requires. -/
def RequiredReadable (document : BehaviorIR) : Prop :=
  ∀ c ∈ document.capabilities, c.required = true → Readable c.minimumVersion.val

/-- The environment that has the required capabilities of a document in their minimum versions. -/
def leastEnvironment (document : BehaviorIR) : Dict String String :=
  Dict.ofList ((document.capabilities.filter (·.required)).map fun c =>
    (c.name.val, c.minimumVersion.val))

omit [ReprText] in
theorem get?_leastEnvironment (h : base.WellFormed) {name version : String} :
    (leastEnvironment base).get? name = some version ↔
      ∃ c ∈ base.capabilities, c.required = true ∧ c.name.val = name ∧
        c.minimumVersion.val = version := by
  have hnodup : (((base.capabilities.filter (·.required)).map fun c =>
      (c.name.val, c.minimumVersion.val)).map Prod.fst).Nodup := by
    rw [List.map_map]
    have hnames : (base.capabilities.map fun c => c.name.val).Nodup := by
      have h := h.capability_names.map Subtype.val_injective
      rwa [List.map_map] at h
    exact hnames.sublist (List.filter_sublist.map _)
  rw [leastEnvironment, Dict.get?_ofList hnodup, List.mem_map]
  simp only [List.mem_filter, Prod.mk.injEq, and_assoc]

theorem validateRequiredCapabilities_leastEnvironment (h : base.WellFormed)
    (hreadable : RequiredReadable base) :
    validateRequiredCapabilities base (leastEnvironment base) = .ok () := by
  rw [validateRequiredCapabilities_eq_ok]
  intro c hc hrequired
  exact ⟨c.minimumVersion.val, (get?_leastEnvironment h).mpr ⟨c, hc, hrequired, rfl, rfl⟩,
    c.minimumVersion.matches, hreadable c hc hrequired, hreadable c hc hrequired, le_rfl⟩

/-- When some environment runs the base behavior but not the final one. -/
theorem exists_lost_environment_iff (hbase : base.WellFormed) :
    (∃ available, validateRequiredCapabilities base available = .ok () ∧
      validateRequiredCapabilities final available ≠ .ok ()) ↔
    RequiredReadable base ∧ ¬∀ c ∈ final.capabilities, c.required = true →
      Readable c.minimumVersion.val ∧ AskedBefore base c := by
  simp only [Ne, validateRequiredCapabilities_eq_ok]
  constructor
  · rintro ⟨available, hrun, hrefused⟩
    refine ⟨fun c hc hrequired => ?_, fun hasked => hrefused fun c hc hrequired => ?_⟩
    · obtain ⟨_, _, _, _, hreadable, _⟩ := hrun c hc hrequired
      exact hreadable
    · obtain ⟨hreadable, previous, hprevious, hprequired, hname, hle⟩ := hasked c hc hrequired
      obtain ⟨actual, hactual, hmatch, hread, -, hversion⟩ := hrun previous hprevious hprequired
      exact ⟨actual, by rw [← hname]; exact hactual, hmatch, hread, hreadable, hle.trans hversion⟩
  · rintro ⟨hreadable, hnot⟩
    refine ⟨leastEnvironment base, ?_, fun hmet => hnot fun c hc hrequired => ?_⟩
    · rw [← validateRequiredCapabilities_eq_ok]
      exact validateRequiredCapabilities_leastEnvironment hbase hreadable
    · obtain ⟨actual, hactual, -, -, hread, hle⟩ := hmet c hc hrequired
      obtain ⟨previous, hprevious, hprequired, hname, rfl⟩ :=
        (get?_leastEnvironment hbase).mp hactual
      exact ⟨hread, previous, hprevious, hprequired, Subtype.ext hname, hle⟩

omit [ReprText] in
/-- When the classification reports a break. -/
theorem breaking_iff (hbase : base.WellFormed) (hfinal : final.WellFormed) :
    (∃ a, compatibilityOf base final = .ok a ∧ a.outcome = .breaking ∧
      requiredClasses a = [.publicContract]) ↔
    (∃ root ∈ base.roots, root ∉ final.roots) ∨
      (∃ c, Breaks base final c) ∧ Assessable base final := by
  have hlost : (∃ root ∈ base.roots, root ∉ final.roots) ↔ ¬RootsKept base final := by
    simp [RootsKept]
  rw [hlost, ← breakReasons_ne_nil_iff hbase]
  simp only [compatibilityOf_eq_ok hbase hfinal]
  have hclasses : ∀ a : CompatibilityAssessment, a.outcome = .breaking →
      requiredClasses a = [.publicContract] := fun a ha => if_pos ha
  constructor
  · rintro ⟨a, ha, hbreaking, -⟩
    by_cases hkept : RootsKept base final
    · refine .inr ⟨?_, ha.assessable hbase hfinal hkept⟩
      cases ha with
      | lostRoot hlost => exact absurd hkept hlost
      | breaks _ _ hbreaks => exact hbreaks
      | compatible _ _ _ _ houtcome => cases houtcome.symm.trans hbreaking
      | unresolved _ _ _ _ houtcome => cases houtcome.symm.trans hbreaking
    · exact .inl hkept
  · intro h
    by_cases hkept : RootsKept base final
    · obtain ⟨hbreaks, hassessable⟩ := h.resolve_left (not_not.mpr hkept)
      obtain ⟨a, ha, houtcome⟩ := exists_verdict_of_breaks hbase hfinal hkept hassessable hbreaks
      exact ⟨a, ha, houtcome, hclasses a houtcome⟩
    · obtain ⟨a, ha, houtcome⟩ := exists_verdict_of_lost hkept
      exact ⟨a, ha, houtcome, hclasses a houtcome⟩

/-- An environment that is lost is reported exactly when a base root is lost too, some entity's
requirement breaks and the breaks can be assessed, or there is no such environment: `int` does not
read what the base document requires, or the base document asked for all of it before. -/
theorem lost_environment_reported_iff (hbase : base.WellFormed) (hfinal : final.WellFormed) :
    ((∃ available, validateRequiredCapabilities base available = .ok () ∧
        validateRequiredCapabilities final available ≠ .ok ()) →
      ∃ a, compatibilityOf base final = .ok a ∧ a.outcome = .breaking ∧
        requiredClasses a = [.publicContract]) ↔
    (∃ root ∈ base.roots, root ∉ final.roots) ∨
      ((∃ c, Breaks base final c) ∧ Assessable base final) ∨ ¬RequiredReadable base ∨
      ∀ c ∈ final.capabilities, c.required = true →
        Readable c.minimumVersion.val ∧ AskedBefore base c := by
  rw [exists_lost_environment_iff hbase, breaking_iff hbase hfinal, imp_iff_or_not, not_and_or,
    not_not, or_assoc]

end Classified

end Ucf

/-! ### Samples

A document with one required capability; a final document with two more, in one order by entity id
and in the other by name; one that adds an optional capability; and one that gives the requirement
another name. -/

namespace Ucf.GovernanceSample

open Ucf.Sample (capability irProvenance)

scoped instance reprText : ReprText := ⟨quoted⟩

def document (capabilities : List CapabilityRequirement) : BehaviorIR where
  documentId := ⟨"sample", Sample.sample_valid⟩
  roots := []
  entities := .provenance irProvenance :: capabilities.map .capabilityRequirement

def base : BehaviorIR := document [capability]

def first : CapabilityRequirement :=
  { capability with id := ⟨"first", by decide⟩, name := ⟨"org.ucf.z", by decide⟩ }

def second : CapabilityRequirement :=
  { capability with id := ⟨"second", by decide⟩, name := ⟨"org.ucf.a", by decide⟩ }

def crossed : BehaviorIR := document [capability, first, second]

def extended : BehaviorIR := document [capability, { first with required := false }]

def other : CapabilityRequirement := { capability with name := ⟨"org.ucf.other", by decide⟩ }

def renamed : BehaviorIR := document [other]

theorem wellFormed_base : base.WellFormed :=
  validateIrSemantics_eq_ok.mp (show validateIrSemantics base = .ok () by decide +kernel)

theorem wellFormed_crossed : crossed.WellFormed :=
  validateIrSemantics_eq_ok.mp (show validateIrSemantics crossed = .ok () by decide +kernel)

theorem wellFormed_extended : extended.WellFormed :=
  validateIrSemantics_eq_ok.mp (show validateIrSemantics extended = .ok () by decide +kernel)

theorem wellFormed_renamed : renamed.WellFormed :=
  validateIrSemantics_eq_ok.mp (show validateIrSemantics renamed = .ok () by decide +kernel)

/-- The outcome, where the classification returns. -/
def outcome? (base final : BehaviorIR) : Option CompatibilityOutcome :=
  match compatibilityOf base final with
  | .ok a => some a.outcome
  | .error _ => none

/-- Two capabilities that are introduced with names in another order than their ids. -/
theorem classification_raises : base.WellFormed ∧ crossed.WellFormed ∧
    base.documentId = crossed.documentId ∧ ¬∃ a, compatibilityOf base crossed = .ok a := by
  refine ⟨wellFormed_base, wellFormed_crossed, rfl, ?_⟩
  rintro ⟨a, ha⟩
  have hnone : outcome? base crossed = none := by decide +kernel
  rw [outcome?, ha] at hnone
  cases hnone

theorem classification_returns_iff_extended :
    (∃ a, compatibilityOf base extended = .ok a ∧ a.texts ≠ [] ∧ a.texts.Nodup ∧
      a.texts = sortedBy id a.texts) ↔
    (∃ root ∈ base.roots, root ∉ extended.roots) ∨ Assessable base extended :=
  classification_returns_iff wellFormed_base wellFormed_extended

theorem exists_compatible :
    ∃ a, compatibilityOf base extended = .ok a ∧ a.outcome = .compatible := by
  have hsome : outcome? base extended = some .compatible := by decide +kernel
  cases ha : compatibilityOf base extended with
  | ok a =>
    rw [outcome?, ha, Option.some.injEq] at hsome
    exact ⟨a, rfl, hsome⟩
  | error e =>
    rw [outcome?, ha] at hsome
    cases hsome

theorem compatible_sound_extended :
    (∀ entity ∈ base.entities, ∃ entity' ∈ extended.entities,
      modelDump entity'.canonical = modelDump entity.canonical) ∧
    (∀ root ∈ base.roots, root ∈ extended.roots) ∧
    ∀ available, validateRequiredCapabilities extended available = .ok () ↔
      validateRequiredCapabilities base available = .ok () := by
  obtain ⟨a, ha, hcompatible⟩ := exists_compatible
  exact compatible_sound wellFormed_base wellFormed_extended ha hcompatible

/-- The environment of the base document. -/
def environment : Dict String String := leastEnvironment base

/-- An environment without the new name of a requirement that keeps its entity id. -/
theorem lost_environment_unreported : base.WellFormed ∧ renamed.WellFormed ∧
    base.documentId = renamed.documentId ∧
    validateRequiredCapabilities base environment = .ok () ∧
    validateRequiredCapabilities renamed environment ≠ .ok () ∧
    ¬∃ a, compatibilityOf base renamed = .ok a ∧ a.outcome = .breaking := by
  have hreadable : RequiredReadable base := by
    unfold RequiredReadable
    decide +kernel
  refine ⟨wellFormed_base, wellFormed_renamed, rfl,
    validateRequiredCapabilities_leastEnvironment wellFormed_base hreadable, ?_, ?_⟩
  · intro hok
    have hmem : other ∈ renamed.capabilities := by decide +kernel
    obtain ⟨actual, hactual, -⟩ := validateRequiredCapabilities_eq_ok.mp hok other hmem rfl
    have hnone : environment.get? other.name.val = none := by decide +kernel
    rw [hnone] at hactual
    cases hactual
  · rintro ⟨a, ha, hbreaking⟩
    have hsome : outcome? base renamed = some .unresolved := by decide +kernel
    rw [outcome?, ha, Option.some.injEq, hbreaking] at hsome
    cases hsome

theorem lost_environment_reported_iff_crossed :
    ((∃ available, validateRequiredCapabilities base available = .ok () ∧
        validateRequiredCapabilities crossed available ≠ .ok ()) →
      ∃ a, compatibilityOf base crossed = .ok a ∧ a.outcome = .breaking ∧
        requiredClasses a = [.publicContract]) ↔
    (∃ root ∈ base.roots, root ∉ crossed.roots) ∨
      ((∃ c, Breaks base crossed c) ∧ Assessable base crossed) ∨ ¬RequiredReadable base ∨
      ∀ c ∈ crossed.capabilities, c.required = true →
        Readable c.minimumVersion.val ∧ AskedBefore base c :=
  lost_environment_reported_iff wellFormed_base wellFormed_crossed

end Ucf.GovernanceSample
