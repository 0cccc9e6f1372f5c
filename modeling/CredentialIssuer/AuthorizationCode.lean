import CredentialIssuer.Crypto.Sha256
import CredentialIssuer.Error
import CredentialIssuer.Json.Basic
import CredentialIssuer.Json.Record
import CredentialIssuer.Keyed
import CredentialIssuer.Text.Base64Url
import CredentialIssuer.Text.Digits
import CredentialIssuer.Text.Utf8
import CredentialIssuer.Time.TimeSpan
import CredentialIssuer.Time.Timestamp

/-! Authorization codes. Only the hash of a code is kept, and what it is kept with is found under
that hash. -/
namespace CredentialIssuer

namespace AuthorizationCode

/-- The hash of a code in lowercase digits. -/
def hash (code : String) : String := Bytes.toHex (Sha256.digest (Utf8.encode code))

/-- The number of random bytes in a code. -/
def entropyLength : Nat := 32

def ofEntropy (bytes : Bytes) : String := Base64Url.encode bytes

/-- What is kept of a code. -/
structure Item where
  hash : String
  resourceId : String
  redirectUrl : String
  createdAt : Timestamp
  deriving DecidableEq, Repr

namespace Item

def ofJson? (value : Json) : Option Item := do
  let r ← Json.record? ["auth_code_hash", "resource_id", "redirect_url", "created_at"] value
  some {
    hash := ← r.required "auth_code_hash" Json.asText?
    resourceId := ← r.required "resource_id" Json.asText?
    redirectUrl := ← r.required "redirect_url" Json.asText?
    createdAt := ← r.required "created_at" fun v => v.asText?.bind Timestamp.read? }

def toJson (item : Item) : Json :=
  .object [("auth_code_hash", .string item.hash), ("resource_id", .string item.resourceId),
    ("redirect_url", .string item.redirectUrl), ("created_at", .string item.createdAt.print)]

end Item

/-- Durations beyond this many seconds never end. -/
def longestExpiry : Nat := 2 ^ 63 - 1

/-- An item is expired once more than the given time has gone by. A limit before the first
representable time is never passed. -/
def isExpired (expiry : TimeSpan) (now : Timestamp) (item : Item) : Bool :=
  let limit := now.unixNanos - expiry.totalNanos
  expiry.seconds ≤ longestExpiry && Timestamp.minUnixNanos ≤ limit
    && item.createdAt.unixNanos < limit

/-- Items by their hashes. -/
abbrev Store := Keyed Item

namespace Store

def create (store : Store) (item : Item) : Store := store.insert item.hash item

def findByHash (store : Store) (hash : String) : Option Item := store.find? hash

def delete (store : Store) (hash : String) : Store := store.erase hash

/-- The item of a code that leads to a resource. -/
def itemFor (code resourceId redirectUrl : String) (now : Timestamp) : Item :=
  ⟨hash code, resourceId, redirectUrl, now⟩

def persist (store : Store) (code resourceId redirectUrl : String) (now : Timestamp) : Store :=
  store.create (itemFor code resourceId redirectUrl now)

def find (store : Store) (code : String) : Option Item := store.findByHash (hash code)

def revoke (store : Store) (code : String) : Store := store.delete (hash code)

end Store

end AuthorizationCode

end CredentialIssuer
