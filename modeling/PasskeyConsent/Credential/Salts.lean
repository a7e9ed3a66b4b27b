import PasskeyConsent.Bytes.Sha256
/-!
# PRF salts

The two salts a ceremony evaluates the authenticator's pseudo-random function on.  They depend on the account alone, so
every ceremony for one account derives the same pair of secrets: the first wraps the key seed, the second is passed on
to the signer.
-/
namespace PasskeyConsent

structure PrfSalts where
  first : Bytes
  second : Bytes
deriving DecidableEq, Repr

namespace PrfSalts

def preimage (label account : String) : Bytes :=
  Bytes.ofText "passkey_confirm:prf:" ++ Bytes.ofText label ++ Bytes.ofText ":" ++ Bytes.ofText account

def forAccount (account : String) : PrfSalts where
  first := Sha256.hash (preimage "first" account)
  second := Sha256.hash (preimage "second" account)

end PrfSalts
end PasskeyConsent
