import Ucf.Library.Schema

/-! The exceptions that the modelled functions raise, with their codes, messages and locations. -/

namespace Ucf

/-- `ucf.ir.errors.IRErrorCode` -/
inductive IRErrorCode where
  | invalidJson
  | duplicateJsonMember
  | malformedVersion
  | unsupportedVersion
  | unknownField
  | invalidStructure
  | invalidValue
  | duplicateIdentity
  | duplicatePort
  | duplicateReference
  | duplicateCapability
  | brokenReference
  | wrongTargetKind
  | unknownPort
  | invalidBinding
  | missingCapabilityRequirement
  | unsupportedCapability
  | documentIdentityMismatch
  | mappingBasisMismatch
  | missingClaimBasis
  | candidateIsNotEvidence
  | claimBasisMismatch
  | evidenceNotPassed
  | staleEvidence
  | circularClaimBasis
  | verifiedUnavailable
deriving DecidableEq, Repr

/-- `ucf.onboarding.errors.OnboardingErrorCode` -/
inductive OnboardingErrorCode where
  | brokenReference
  | contentIdentityMismatch
  | documentIdentityMismatch
  | duplicateIdentity
  | invalidDecision
  | invalidProposal
  | illegalPromotion
  | nonCanonicalOrder
  | staleDecision
  | summaryMismatch
  | unreachableEntity
  | wrongTargetKind
deriving DecidableEq, Repr

/-- `RatchetErrorCode` of both ratchet profiles; profile 1.0.0 has some of the members only. -/
inductive RatchetErrorCode where
  | ambiguousCoverageIdentity
  | brokenReference
  | contentIdentityMismatch
  | documentIdentityMismatch
  | duplicateIdentity
  | illegalWeakening
  | incompleteComparisonDomain
  | incompleteCoverage
  | incompleteRuleCoverage
  | migrationSourceMismatch
  | nonCanonicalOrder
  | nonComparableCoverageDomain
  | ratchetDowngradeForbidden
  | resourceLimitExceeded
  | summaryMismatch
  | unsupportedCapability
  | unsupportedEvidenceKind
  | unsupportedRatchetVersion
  | wrongTargetKind
deriving DecidableEq, Repr

/-- An exception. -/
inductive PyError where
  /-- `ucf.ratchet.v2.errors.RatchetValidationError` -/
  | ratchet (code : RatchetErrorCode) (message location : String)
  /-- `ucf.ratchet.errors.RatchetValidationError` -/
  | ratchetV1 (code : RatchetErrorCode) (message location : String)
  /-- `ucf.onboarding.errors.OnboardingValidationError` -/
  | onboarding (code : OnboardingErrorCode) (message location : String)
  /-- `ucf.ir.errors.IRValidationError` -/
  | ir (code : IRErrorCode) (message location : String)
  /-- `pydantic.ValidationError` -/
  | validation (issues : List Issue)
  /-- A missing dictionary key, an empty iterator, a failed assertion, a missing attribute or a
  recursion without end. -/
  | keyError
  | stopIteration
  | assertionError
  | attributeError
  | recursionError
deriving DecidableEq, Repr

/-- A model constructor call that validates its arguments. -/
def validated {α : Type} (x : Except (List Issue) α) : Except PyError α :=
  x.mapError .validation

@[simp] theorem validated_ok {α : Type} (a : α) : validated (.ok a) = .ok a := rfl

@[simp] theorem validated_eq_ok {α : Type} {x : Except (List Issue) α} {a : α} :
    validated x = .ok a ↔ x = .ok a := by
  cases x <;> simp [validated, Except.mapError]

/-- `$.path[position]` -/
def at_ (location : String) (position : Nat) : String := s!"{location}[{position}]"

end Ucf
