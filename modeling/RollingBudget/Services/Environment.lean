import RollingBudget.Database.Models
import RollingBudget.Foundation.Outcome

namespace RollingBudget

/-! What the services raise, and what they take from outside: the hash function, the
time zone database, the database dialect and the clock. -/

/-! ## Errors -/

/-- The `code` of a `DomainError`. -/
inductive ErrorCode where
  | invalidTimezone
  | mixedBudgetCurrencyNotSupported
  | configVersionConflict
  | configVersionRequired
  | configCategoryMissing
  | configRequired
  | configMissing
  | idempotencyConflict
  | fullRebuildRequired
  | fullWindowIncomplete
  | accountScopeChanged
  | invalidBatchIndex
  | batchTooLarge
  | refreshRunNotFound
  | batchContentConflict
  | batchIdempotencyConflict
  | refreshRunNotUploadable
  | duplicateTransaction
  | unexpectedAccount
  | currencyMismatch
  | transactionOutsideRunWindow
  | unknownCategory
  | commitReplayConflict
  | refreshRunNotCommittable
  | missingBatch
  | completedAccountsMismatch
  | refreshRunSuperseded
  | pendingReplacementConflict
  | invalidStagingData
deriving DecidableEq

structure DomainError where
  message : Text
  code : ErrorCode
  statusCode : Nat
deriving DecidableEq

/-- Every way a call can raise. -/
inductive ServiceError where
  | domain (error : DomainError)
  | validationError
  | keyError (key : Text)
  | overflowError
  | memoryError
  | zoneInfoFailure
deriving DecidableEq

namespace ServiceError

def domainError (code : ErrorCode) (message : Text) : ServiceError := .domain ⟨message, code, 400⟩

def tooLarge (code : ErrorCode) (message : Text) : ServiceError := .domain ⟨message, code, 413⟩

def conflictError (code : ErrorCode) (message : Text) : ServiceError :=
  .domain ⟨message, code, 409⟩

def notFoundError (code : ErrorCode) (message : Text) : ServiceError :=
  .domain ⟨message, code, 404⟩

def code : ServiceError → Option ErrorCode
  | .domain error => some error.code
  | _ => none

end ServiceError

/-! ## Environment -/

/-- What `ZoneInfo(name)` does: it finds the zone, raises `ZoneInfoNotFoundError`, or
raises something else (`ValueError` for a malformed name). -/
inductive ZoneLookup where
  | found
  | notFound
  | failed
deriving DecidableEq

/-- `sha256` is the hexadecimal digest of a text in UTF-8, `localDate` the date that
`datetime.now(ZoneInfo(name))` shows at an instant, and `offset` the offset text of the
datetimes the driver returns. -/
structure Environment where
  sha256 : Text → Text
  zoneInfo : Text → ZoneLookup
  localDate : Text → Datetime → Date
  dialect : Dialect
  offset : Text

/-- One reading of the service's and of the database's clock. -/
structure Clock where
  now : Datetime
  serverNow : Datetime
deriving DecidableEq

namespace Environment

variable (environment : Environment)

/-- `sha256_hex` -/
def sha256Hex (payload : Json) : Text := environment.sha256 payload.dumps

/-- `checksum_chain` -/
def checksumChain (checksums : List Text) : Text :=
  environment.sha256 (checksums.flatMap fun checksum => checksum ++ ['\n'])

/-- `stable_receipt` -/
def stableReceipt (runId : Nat) (checksum committedAt : Text) : Text :=
  environment.sha256 (uuidText runId ++ ':' :: (checksum ++ ':' :: committedAt))

variable {environment}

/-- With a collision-free digest, equal hashes come from equal payloads. -/
theorem dumps_eq_of_sha256Hex_eq (injective : Function.Injective environment.sha256)
    {left right : Json} (equal : environment.sha256Hex left = environment.sha256Hex right) :
    left.dumps = right.dumps :=
  injective equal

end Environment

end RollingBudget
