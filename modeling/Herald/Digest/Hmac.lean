import Herald.Digest.Sha256

/-!
# Keyed digests

The HMAC of RFC 2104 over SHA-256. Main statement: a tag has 32 bytes
(`length_hmac`).
-/

namespace Herald.Digest

/-- The key filled up to a block of 64 bytes. A longer key is replaced by its
digest. -/
def keyBlock (key : List UInt8) : List UInt8 :=
  let key := if 64 < key.length then Sha256.digest key else key
  key ++ List.replicate (64 - key.length) 0

/-- The tag of a message under a key. -/
def hmac (key message : List UInt8) : List UInt8 :=
  let block := keyBlock key
  Sha256.digest (block.map (· ^^^ 0x5C) ++ Sha256.digest (block.map (· ^^^ 0x36) ++ message))

theorem length_hmac (key message : List UInt8) : (hmac key message).length = 32 :=
  Sha256.length_digest _

end Herald.Digest
