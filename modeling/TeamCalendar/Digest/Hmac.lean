import TeamCalendar.Digest.Sha256

/-!
# Message authentication

The keyed digest of a message: the digest of the message under an inner key, digested under an outer
key.  A key longer than a block is replaced by its digest.
-/

namespace TeamCalendar.Digest.Hmac

/-- The length of a block. -/
def blockLength : Nat :=
  64

/-- A key that fills a block. -/
def blockKey (key : List UInt8) : List UInt8 :=
  let key := if key.length ≤ blockLength then key else Sha256.digest key
  key ++ List.replicate (blockLength - key.length) 0

/-- The digest of a message under a key, 32 bytes. -/
def sign (key message : List UInt8) : List UInt8 :=
  let key := blockKey key
  let inner := Sha256.digest (key.map (· ^^^ 0x36) ++ message)
  Sha256.digest (key.map (· ^^^ 0x5c) ++ inner)

theorem length_sign (key message : List UInt8) : (sign key message).length = 32 :=
  Sha256.length_digest _

end TeamCalendar.Digest.Hmac
