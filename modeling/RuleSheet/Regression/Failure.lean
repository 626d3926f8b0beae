import RuleSheet.Files.Source

/-!
# Failures of regression tests

Why a case of a regression test cannot be run, or does not pass.

## Main definitions

* `RuleSheet.Regression.Failure` — the causes, with their wording.
-/

set_option autoImplicit false

namespace RuleSheet.Regression

open Text

/-- Why a case cannot be run, or does not pass. -/
inductive Failure where
  /-- A file operation failed. -/
  | file (cause : FileFailure)
  /-- The description of a case is malformed. -/
  | yaml
  /-- The conversion failed. -/
  | source (failure : SourceFailure)
  /-- There is no expectation. -/
  | missingExpectation (path : Text)
  /-- There is no case in a folder. -/
  | noCase (folder : Text)
  /-- No case matches a pattern. -/
  | noMatch (pattern : Text)
  /-- A case does not pass. -/
  | caseFailed (name error : Text) (diff : Option Text)
  /-- Several cases do not pass. -/
  | casesFailed (count : Nat)
  deriving DecidableEq, Repr

/-- The wording of a failure. -/
def Failure.message : Failure → Text
  | .file cause => "IO error: " ++ cause.message
  | .yaml => "YAML error"
  | .source failure => "Transpiler error: " ++ failure.message
  | .missingExpectation path =>
    "Snapshot mismatch: " ++ path ++ " does not exist. Run with UPDATE_GOLDEN=1 to create it."
  | .noCase folder => "Corpus error: No case.yaml in " ++ folder
  | .noMatch pattern => "Corpus error: No cases found matching pattern '" ++ pattern ++ "'"
  | .caseFailed name error diff =>
    "Test failed: Case '" ++ name ++ "' failed: " ++ error ++
      (match diff with
        | some diff => '\n' :: diff
        | none => [])
  | .casesFailed count => "Test failed: " ++ Text.ofNat count ++ " case(s) failed"

end RuleSheet.Regression
