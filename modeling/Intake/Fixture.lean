import Intake.SipHash

/-!
# Fixtures

Names and bodies for tests that run side by side: each test has a seed, and what it makes carries
the seed.
-/

namespace Intake

/-- The seed of one test. -/
structure Fixture where
  seed : UInt64
deriving DecidableEq, Repr

namespace Fixture

/-- The fixture of a named test. -/
def ofName (name : String) : Fixture := ⟨SipHash.hashText name⟩

/-- The name of a queue or a consumer of this test. -/
def name (f : Fixture) (first last : String) : String :=
  "test-" ++ first ++ "-" ++ toString f.seed.toNat ++ "-" ++ last

/-- The text of the n-th message of this test. -/
def body (f : Fixture) (n : Nat) : String := "body-" ++ toString f.seed.toNat ++ "-" ++ toString n

end Fixture

end Intake
