import PasskeyConsent.Confirmation.Operations
/-!
# Handling a request

From an envelope to its one answer.  A request that cannot be read is answered at once.  Any other is registered under
its id, runs until it ends or is cancelled, gives back what it holds unless it was approved, closes its surface, and is
then answered.  Two endings have no answer: an id that is already running, and a ceremony that came back without its
PRF result.
-/
namespace PasskeyConsent.Confirmation

open Program

/-- Posts a response; what crosses is plain data. -/
def post (r : Response) : Program (Except Error Unit) := do
  match ← call (.post (Transferable.ofJson (Response.codec.encode r)).sanitize) with
  | .ok () => return .ok ()
  | .error e => return .error (.channel e)

/-- Shows the surface and waits for the user, or for the time after which the request goes on by itself. -/
def awaitUser (r : Request) (policy : ConfirmationPolicy) : Stage Unit := do
  access (.enter r.id .uiWait)
  let surface ← call (.mount r policy)
  access (.holdSurface surface)
  let limit := match policy.behavior with
    | .requireClick => none
    | .autoProceed => some policy.autoProceedDelayMs.toNat
  match ← call (.decision surface limit) with
  | some .cancel => throw (.decline .userCancelled "User rejected the confirmation")
  | some .proceed | none => return

/-- The part of a request that a cancel stops. -/
def run (setup : Setup) (r : Request) (policy : ConfirmationPolicy) : Stage Response := do
  if policy.showsUi then awaitUser r policy
  perform setup r

def releaseAll : List Nat → Program Unit
  | [] => pure ()
  | n :: rest => do
    access (.release n)
    releaseAll rest

def closeSurface : Option UiHandle → Program Unit
  | none => pure ()
  | some surface => call (.unmount surface)

/-- Gives back what a request holds. -/
def rollBack (setup : Setup) (own : Holdings) : Program Unit := do
  releaseAll own.nonces
  match own.warmUse with
  | none => pure ()
  | some (g, account) => do
    call (.reclaim g account)
    let _ ← access (.restore g.sessionId)
  match own.channel, setup.signer with
  | some session, some _ => let _ ← access (.detach session)
  | _, _ => pure ()
  closeSurface own.surface

/-- What follows once a request has come to its end. -/
def conclude (setup : Setup) (id : String) : Except Stop Response → Program (Except Error Unit)
  | .ok r => do
    access (.enter id .responding)
    closeSurface (← access .holdings).surface
    post r
  | .error (.declined code message) => do
    access (.enter id (if code = .userCancelled then .cancelled else .failed))
    rollBack setup (← access .holdings)
    post (.declined id code message)
  | .error (.fatal e) => do
    access (.enter id .failed)
    rollBack setup (← access .holdings)
    return .error e

def cancelled : Except Stop Response := .error (.decline .userCancelled "Confirmation was cancelled")

/-- Handles a request that has been read. -/
def handleRequest (setup : Setup) (r : Request) : Program (Except Error Unit) := do
  access (.enter r.id .validating)
  if !(← access (.register r.id)) then return .error (.validation (.duplicateRequestId r.id))
  let stored ← call .preferences
  let policy := resolvePolicy stored r.policyOverride r.operation setup.embedding
  access (.enter r.id .policyResolved)
  let outcome ← unlessCancelled r.id cancelled (run setup r policy).run
  let result ← conclude setup r.id outcome
  access (.unregister r.id)
  return result

/-- Handles an envelope. -/
def handle (setup : Setup) (raw : Json) : Program (Except Error Unit) :=
  match Request.read raw with
  | .error e => post (.declined (Request.peekId raw) .validationFailed e.message)
  | .ok r => handleRequest setup r

end PasskeyConsent.Confirmation
