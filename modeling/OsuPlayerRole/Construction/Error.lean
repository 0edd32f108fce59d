/-
This file gives the errors of the program and of its database.
-/

namespace OsuPlayerRole

/-- The errors of one database statement. -/
inductive DbError where
  | uniqueViolation (constraint : String)
  | foreignKeyViolation (constraint : String)
  | checkViolation (constraint : String)
  | notNullViolation (constraint : String)
  | integerOutOfRange
  | typeMismatch
  | invalidByteSequence
  | invalidEscape
  | invalidRegularExpression
  | negativeLimit
  | unexpectedNull (column : String)
  | rowNotFound
  | unavailable
  deriving DecidableEq

structure FieldError where
  field : String
  message : String
  deriving DecidableEq

inductive AppError where
  | database (error : DbError)
  | roleLogic (message : String)
  | roleLinkNotFound
  /-- The link is switched off by its owner, or paused by the quota of its guild. -/
  | roleLinkDisabled
  /-- RoleLogic holds the write until an owner confirms the removals. -/
  | removalHeld
  | userLimitReached (limit : Nat)
  | osuApi (message : String)
  | badRequest (message : String)
  | unauthorized
  | unauthorizedWith (message : String)
  | forbidden (message : String)
  | notFound (message : String)
  | validationFailed (fields : List FieldError)
  | staleVersion
  | internal (message : String)
  deriving DecidableEq

end OsuPlayerRole
