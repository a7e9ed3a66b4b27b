import PasskeyConsent.Concurrency.Effect
/-!
# Handing a seed over

Attaching a session sends its endpoint to the signing worker and waits for the acknowledgement, one session at a time.
Depositing puts the seed into the box and then announces it.
-/
namespace PasskeyConsent.Handover

open Program

/-- The attach itself, in the worker's lane. -/
def attachInLane (timeout : Duration) (session : String) : Program (Except ChannelError Unit) := do
  if ← access (.isAttached session) then return .error (.alreadyAttached session)
  let box ← access (.openBox session)
  match ← wait (.send ⟨.attach session, some box⟩) with
  | .error e =>
    access (.abandonBox box)
    return .error e
  | .ok () =>
    let start ← access .now
    let outcome ← wait (.ack session (start + timeout.millis))
    match outcome.toExcept session timeout with
    | .error e =>
      access (.abandonBox box)
      return .error (.handshake e)
    | .ok _ =>
      access (.attach session box)
      return .ok ()

def attach (timeout : Duration) (session : String) : ExceptT ChannelError Program Unit :=
  dispatch Hub.signerName (attachInLane timeout session)

def deposit (session : String) (seed : SeedMaterial) : ExceptT ChannelError Program Unit := do
  attempt (access (.deposit session seed))
  attempt (wait (.send ⟨.seedReady session, none⟩))

end PasskeyConsent.Handover
