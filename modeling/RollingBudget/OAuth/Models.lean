import RollingBudget.Foundation.Table
import RollingBudget.Foundation.Text

namespace RollingBudget.OAuth

/-! The rows of the four OAuth tables. Credentials are found by their digests, and
deleting a family deletes its tokens with it. -/

/-- An instant in microseconds since the epoch, in UTC. -/
abbrev Instant := Nat

/-- `timedelta(seconds=count)` -/
def seconds (count : Nat) : Nat := 1000000 * count

structure OAuthAuthorizationCode where
  codeDigest : Text
  clientId : Text
  redirectUri : Text
  resource : Text
  scopes : Text
  codeChallenge : Text
  subject : Text
  credentialGeneration : Text
  expiresAt : Instant
  consumedAt : Option Instant
deriving DecidableEq

structure OAuthTokenFamily where
  id : Nat
  clientId : Text
  resource : Text
  scopes : Text
  subject : Text
  credentialGeneration : Text
  expiresAt : Instant
  revokedAt : Option Instant
  compromiseDetectedAt : Option Instant
deriving DecidableEq

structure OAuthAccessToken where
  tokenDigest : Text
  familyId : Nat
  scopes : Text
  expiresAt : Instant
  revokedAt : Option Instant
deriving DecidableEq

structure OAuthRefreshToken where
  tokenDigest : Text
  familyId : Nat
  scopes : Text
  expiresAt : Instant
  consumedAt : Option Instant
  revokedAt : Option Instant
deriving DecidableEq

/-- A refresh token that has been neither redeemed nor revoked. -/
def OAuthRefreshToken.IsLive (row : OAuthRefreshToken) : Prop :=
  row.consumedAt = none ∧ row.revokedAt = none

instance (row : OAuthRefreshToken) : Decidable row.IsLive := inferInstanceAs (Decidable (_ ∧ _))

structure OAuthStore where
  codes : List OAuthAuthorizationCode
  families : List OAuthTokenFamily
  accessTokens : List OAuthAccessToken
  refreshTokens : List OAuthRefreshToken
deriving DecidableEq

namespace OAuthStore

def empty : OAuthStore := ⟨[], [], [], []⟩

/-! ## Queries -/

variable (store : OAuthStore)

def findCode (digest : Text) : Option OAuthAuthorizationCode :=
  Table.get (·.codeDigest) store.codes digest

def findFamily (id : Nat) : Option OAuthTokenFamily := Table.get (·.id) store.families id

def findAccess (digest : Text) : Option OAuthAccessToken :=
  Table.get (·.tokenDigest) store.accessTokens digest

def findRefresh (digest : Text) : Option OAuthRefreshToken :=
  Table.get (·.tokenDigest) store.refreshTokens digest

/-- The family has been revoked. -/
def Revoked (id : Nat) : Prop := ∃ family ∈ store.families, family.id = id ∧ family.revokedAt ≠ none

/-! ## Updates -/

def modifyCode (digest : Text) (change : OAuthAuthorizationCode → OAuthAuthorizationCode) :
    OAuthStore :=
  { store with codes := Table.modify (·.codeDigest) digest change store.codes }

def modifyFamily (id : Nat) (change : OAuthTokenFamily → OAuthTokenFamily) : OAuthStore :=
  { store with families := Table.modify (·.id) id change store.families }

def modifyAccess (digest : Text) (change : OAuthAccessToken → OAuthAccessToken) : OAuthStore :=
  { store with accessTokens := Table.modify (·.tokenDigest) digest change store.accessTokens }

def modifyRefresh (digest : Text) (change : OAuthRefreshToken → OAuthRefreshToken) : OAuthStore :=
  { store with refreshTokens := Table.modify (·.tokenDigest) digest change store.refreshTokens }

def addCode (row : OAuthAuthorizationCode) : OAuthStore :=
  { store with codes := store.codes ++ [row] }

def addFamily (row : OAuthTokenFamily) : OAuthStore :=
  { store with families := store.families ++ [row] }

def addAccess (row : OAuthAccessToken) : OAuthStore :=
  { store with accessTokens := store.accessTokens ++ [row] }

def addRefresh (row : OAuthRefreshToken) : OAuthStore :=
  { store with refreshTokens := store.refreshTokens ++ [row] }

/-- The ids of the families that `_delete_expired` deletes. -/
def expiredFamilies (now : Instant) : List Nat :=
  (store.families.filter (·.expiresAt < now)).map (·.id)

/-- `_delete_expired`. The tokens of a deleted family go by the cascading foreign keys,
whether or not they have expired themselves. -/
def deleteExpired (now : Instant) : OAuthStore where
  codes := store.codes.filter fun row => ¬row.expiresAt < now
  families := store.families.filter fun row => ¬row.expiresAt < now
  accessTokens := store.accessTokens.filter fun row =>
    ¬row.expiresAt < now ∧ row.familyId ∉ store.expiredFamilies now
  refreshTokens := store.refreshTokens.filter fun row =>
    row.familyId ∉ store.expiredFamilies now

end OAuthStore

end RollingBudget.OAuth
