import PasskeyConsent.Confirmation.Steps
/-!
# The flow of each operation

What is done for a request once the user, or the policy, has approved it.  Wherever the chain is involved the challenge
is bound to the latest block just before the authenticator is prompted, so that what is signed is what is sent on.
-/
namespace PasskeyConsent.Confirmation

open Program Stage

/-- The key under which a registration's challenge is kept, apart from the account's own. -/
def registrationKey (account : String) : String := "reg:" ++ account

/-- Signs with a ceremony. -/
def signWithCeremony (setup : Setup) (id : String) (p : SignTransactionPayload) (count : Nat) : Stage Response := do
  let base ← turnContext p.account
  let input := freshnessInput setup p.account base.blockHeight base.blockHash
  bootstrap p.account input .session
  let challenge ← bindFreshness id p.account { input with intentDigest := some (Digest.intent p.transactions) } .session
  let collected ← collectAssertion setup id p.account challenge.signedBytes
  let nonces ← reserveNonces id count
  deliverSeed setup id collected.prf
  let warmSession ← match p.sessionId with
    | none => pure none
    | some session => some <$> grantSession id session p.account
  return { Response.approved id with
    credential := some collected.record
    vrfChallenge := some challenge
    transactionContext := some (base.toTransactionContext nonces)
    warmSession }

/-- Signs on a warm session: no ceremony, and the session's key is dispensed once. -/
def signOnSession (id : String) (p : SignTransactionPayload) (count : Nat) : Stage Response := do
  let base ← turnContext p.account
  let grant ← orStop (attempt (access (.consume (p.sessionId.getD "") p.account))) sessionUnavailable
  orStop (attempt (call (.dispense grant p.account))) sessionUnavailable
  let nonces ← reserveNonces id count
  access .settleUse
  return { Response.approved id with
    transactionContext := some (base.toTransactionContext nonces)
    warmSession := some grant }

/-- Registers with a keypair of its own. -/
def register (setup : Setup) (id : String) (p : RegisterAccountPayload) : Stage Response := do
  let key := registrationKey p.account
  let block ← latestBlock
  let input := freshnessInput setup p.account block.height block.hash
  access (.forgetBootstrap key)
  bootstrap key input .newKeypair
  let challenge ← bindFreshness id key input .newKeypair
  let collected ← collectAttestation setup id p.account challenge.signedBytes
  deliverSeed setup id collected.prf
  return { Response.approved id with credential := some collected.record, vrfChallenge := some challenge }

def decryptKey (setup : Setup) (id : String) (p : DecryptPrivateKeyPayload) : Stage Response := do
  let collected ← collectAssertion setup id p.account (Digest.localChallenge id p.account)
  let prfOutput ← match p.flow with
    | .localOnly => pure (some collected.prf.first)
    | .workerOnly => do
      deliverSeed setup id collected.prf
      pure none
  return { Response.approved id with credential := some collected.record, prfOutput }

def signMessage (setup : Setup) (id : String) (p : SignMessagePayload) : Stage Response := do
  let block ← latestBlock
  let input := freshnessInput setup p.account block.height block.hash
  bootstrap p.account input .session
  let challenge ← bindFreshness id p.account { input with intentDigest := some (Digest.message p) } .session
  let collected ← collectAssertion setup id p.account challenge.signedBytes
  deliverSeed setup id collected.prf
  return { Response.approved id with credential := some collected.record, vrfChallenge := some challenge }

def linkDevice (setup : Setup) (id : String) (p : LinkDevicePayload) (count : Nat) : Stage Response := do
  let base ← turnContext p.account
  let input := freshnessInput setup p.account base.blockHeight base.blockHash
  bootstrap p.account input .session
  let challenge ← bindFreshness id p.account input .session
  let collected ← collectAssertion setup id p.account challenge.signedBytes
  let nonces ← reserveNonces id count
  deliverSeed setup id collected.prf
  return { Response.approved id with
    credential := some collected.record
    vrfChallenge := some challenge
    transactionContext := some (base.toTransactionContext nonces) }

def showKey (setup : Setup) (id : String) (p : ShowPrivateKeyPayload) : Stage Response := do
  let collected ← collectAssertion setup id p.account (Digest.localChallenge id p.account)
  deliverSeed setup id collected.prf
  return { Response.approved id with credential := some collected.record }

/-- The flow of a request's operation. -/
def perform (setup : Setup) (r : Request) : Stage Response :=
  match r.payload with
  | .signTransaction p =>
    match p.authMode with
    | .webAuthn => signWithCeremony setup r.id p r.payload.nonceCount
    | .warmSession => signOnSession r.id p r.payload.nonceCount
  | .registerAccount p => register setup r.id p
  | .decryptPrivateKey p => decryptKey setup r.id p
  | .signMessage p => signMessage setup r.id p
  | .linkDevice p => linkDevice setup r.id p r.payload.nonceCount
  | .showPrivateKey p => showKey setup r.id p

end PasskeyConsent.Confirmation
