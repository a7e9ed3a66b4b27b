import PasskeyConsent.Json.Codec
/-!
# Chain records

The block header and the access-key state that the chain answers with.
-/
namespace PasskeyConsent

structure Block where
  height : UInt64
  hash : String
deriving DecidableEq, Repr, Inhabited

/-- A block as the chain's answer wraps it. -/
structure BlockInfo where
  header : Block
deriving DecidableEq, Repr

structure AccessKeyInfo where
  nonce : UInt64
  blockHeight : UInt64
  blockHash : String
deriving DecidableEq, Repr

def Block.codec : Codec Block :=
  .record "BlockHeader" (.cons (.required "height" .u64) (.cons (.required "hash" .string) .nil))
    (fun (height, hash, ()) => ⟨height, hash⟩) (fun b => (b.height, b.hash, ()))

def BlockInfo.codec : Codec BlockInfo :=
  .record "BlockInfo" (.cons (.required "header" Block.codec) .nil) (fun (h, ()) => ⟨h⟩) (fun b => (b.header, ()))

def AccessKeyInfo.codec : Codec AccessKeyInfo :=
  .record "AccessKeyInfo"
    (.cons (.required "nonce" .u64)
      (.cons (.withDefault "block_height" .u64 0) (.cons (.withDefault "block_hash" .string "") .nil)))
    (fun (n, height, hash, ()) => ⟨n, height, hash⟩) (fun k => (k.nonce, k.blockHeight, k.blockHash, ()))

end PasskeyConsent
