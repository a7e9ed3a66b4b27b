import PasskeyConsent.Concurrency.Effect
/-!
# Binding challenges

A challenge is minted once per key and kept as the key's bootstrap.  Binding to a newer block evaluates again and is an
optimisation only: when that fails the bootstrap is taken.  Without a bootstrap binding mints one, and that failure is
the only one that is told.
-/
namespace PasskeyConsent.Freshness

open Program

/-- The keypair that a challenge is minted with. -/
inductive Path where
  /-- The loaded one. -/
  | session
  /-- A new one, which becomes the loaded one. -/
  | newKeypair
deriving DecidableEq, Repr

def evaluation (path : Path) (input : Bytes) : Program (Except FreshnessError VrfOutput) :=
  match path with
  | .session => call (.evaluate input)
  | .newKeypair => call (.evaluateWithNewKeypair input)

def mint (input : FreshnessInput) (path : Path) : ExceptT FreshnessError Program FreshnessChallenge := do
  let output ← attempt (evaluation path input.derive)
  return .ofOutput input output

/-- Mints the bootstrap of a key. -/
def bootstrap (key : String) (input : FreshnessInput) (path : Path) :
    ExceptT FreshnessError Program FreshnessChallenge := do
  let c ← mint input path
  access (.keepBootstrap key c)
  return c

/-- A challenge for a newer block with the loaded keypair. -/
def refresh (input : FreshnessInput) : ExceptT FreshnessError Program FreshnessChallenge := mint input .session

def bind (key : String) (input : FreshnessInput) (path : Path) :
    ExceptT FreshnessError Program FreshnessChallenge := ExceptT.mk do
  match ← access (.bootstrap key) with
  | none => (bootstrap key input path).run
  | some kept =>
    match ← (refresh input).run with
    | .ok c => return .ok c
    | .error _ => return .ok kept

end PasskeyConsent.Freshness
