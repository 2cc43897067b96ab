import RentalGuard.Digest.Sha512

/-! Message authentication codes with SHA-512. -/

namespace RentalGuard

namespace Hmac

def blockSize : Nat := 128

/-- The key filled up with zeros to a block. A key that is longer than a block is hashed first. -/
def blockKey (key : List UInt8) : List UInt8 :=
  let key := if key.length > blockSize then Sha512.hash key else key
  key ++ List.replicate (blockSize - key.length) 0

end Hmac

/-- The code of a message under a key. -/
def hmacSha512 (key message : List UInt8) : List UInt8 :=
  let key := Hmac.blockKey key
  Sha512.hash (key.map (· ^^^ 0x5c) ++ Sha512.hash (key.map (· ^^^ 0x36) ++ message))

theorem length_hmacSha512 (key message : List UInt8) : (hmacSha512 key message).length = 64 :=
  Sha512.length_hash _

end RentalGuard
