import Mathlib.Tactic.TypeStar

/-!
# The exception hierarchy of S4

`domain_error.hpp` declares two families under `ODSBaseException`: `DomainError` (a rule of the
domain was violated) and `ApplicationError` (the infrastructure failed). A `catch` clause names
one family, so the family is what the model keeps apart; within a family the class is a `kind`
and the text is the `what()` of the exception. `MediaMuxError` derives from `ODSBaseException`
directly and belongs to neither.
-/

namespace Ods.S4

/-- The classes that derive from `DomainError`. -/
inductive DomainErrorKind where
  | invalidTimeWindow
  | diskQuotaExceeded
  | invalidCapacity
  | frameTooLarge
  | nonMonotonicTimestamp
  | windowNotInBuffer
  | noDecodableStart
  | invalidRetentionPolicy
  | invalidQuotaPolicy
  | invalidDiskUsage
  deriving DecidableEq, Repr

/-- The classes that derive from `ApplicationError`. -/
inductive ApplicationErrorKind where
  | mediaFileNotFound
  | mediaBufferEmpty
  | hashing
  | bufferNotRunning
  | frameSource
  | frameStore
  | sqliteStorage
  | fileOperation
  | diskUsageUnavailable
  | purgeLog
  deriving DecidableEq, Repr

structure DomainError where
  kind : DomainErrorKind
  message : String
  deriving DecidableEq, Repr

structure ApplicationError where
  kind : ApplicationErrorKind
  message : String
  deriving DecidableEq, Repr

/-- The text of an exception constructed without one. -/
def DomainErrorKind.defaultMessage : DomainErrorKind → String
  | .invalidTimeWindow => "start_time must be strictly before end_time"
  | .diskQuotaExceeded => "NVMe disk quota exceeded with no purgeable media"
  | .invalidCapacity => "Ring buffer capacity must be positive"
  | .frameTooLarge => "Frame does not fit in the ring buffer arena"
  | .nonMonotonicTimestamp => "Capture timestamp went backwards within the same session"
  | .windowNotInBuffer => "Requested window is no longer (or not yet) in the ring buffer"
  | .noDecodableStart => "No keyframe available to decode the requested window"
  | .invalidRetentionPolicy => "Retention period must be positive"
  | .invalidQuotaPolicy => "Quota ratios must satisfy 0 < target <= trigger <= 1"
  | .invalidDiskUsage => "Disk usage must report a positive capacity"

/-- `throw NoDecodableStartError()` and the like. -/
def DomainErrorKind.default (kind : DomainErrorKind) : DomainError :=
  ⟨kind, kind.defaultMessage⟩

/-- Everything the component throws under `ODSBaseException`. -/
inductive ODSException where
  | domain (error : DomainError)
  | application (error : ApplicationError)
  | mediaMux (message : String)
  deriving DecidableEq, Repr

/-- `std::exception::what`. -/
def ODSException.what : ODSException → String
  | .domain error => error.message
  | .application error => error.message
  | .mediaMux message => message

end Ods.S4
