import SiteEdit.Hash.Blake3
/-!
# Identities

A session belongs to the pair of address and user agent that started it.  Only a hash of the pair is kept.
-/
namespace SiteEdit

/-- The bytes that are hashed: the address, a bar, the user agent. -/
def identityBytes (ip userAgent : String) : List UInt8 := (ip ++ "|" ++ userAgent).toUTF8.toList

/-- The identity of a client. -/
def identityHash (ip userAgent : String) : String := Hash.hex (Hash.blake3 (identityBytes ip userAgent))

end SiteEdit
