/-! What can go wrong with a query.

The first four kinds are found while a request is compiled, before anything is sent
(`Error.isCompileError`); the others describe a request that was dispatched. A `Fault` is a cause of
the first two kinds, and `Fault.toError` puts it into words. -/
namespace TableQuery

/-- Why a request was never completed. -/
inductive TransportKind where
  | network
  | timeout
  | cancelled
deriving Repr, DecidableEq

/-- Whether credentials could not be had, or the server refused them. -/
inductive AuthOrigin where
  | credentials
  | server
deriving Repr, DecidableEq

/-- The body a server describes a failure with. -/
structure ServerError where
  code : Option String
  message : String
  details : Option String
  hint : Option String
deriving Repr, DecidableEq

inductive Error where
  | invalidArgument (message : String)
  | invalidState (message : String)
  | undeclaredRelation (path : String)
  | duplicateAlias (name : String)
  | transport (kind : TransportKind) (message : String)
  | auth (origin : AuthOrigin) (status : Option Nat) (code : Option String) (message : String)
  | notFound
  | multipleRows (count : Nat)
  | database (status : Nat) (error : ServerError)
  | decode (message : String)
deriving Repr, DecidableEq

namespace Error

def network (message : String) : Error := .transport .network message

def timeout (message : String) : Error := .transport .timeout message

/-- The caller withdrew the request. -/
def cancelled : Error := .transport .cancelled "request cancelled by caller"

def credentials (message : String) : Error := .auth .credentials none none message

def isCompileError : Error → Bool
  | .invalidArgument _ | .invalidState _ | .undeclaredRelation _ | .duplicateAlias _ => true
  | _ => false

def isTransport : Error → Bool
  | .transport _ _ => true
  | _ => false

/-- The code the server gave, if it gave one. -/
def code : Error → Option String
  | .database _ e => e.code
  | .auth _ _ code _ => code
  | _ => none

end Error

def TransportKind.word : TransportKind → String
  | .network => "network"
  | .timeout => "timeout"
  | .cancelled => "cancelled"

def Error.message : Error → String
  | .invalidArgument m => "Invalid argument: " ++ m
  | .invalidState m => "Invalid state: " ++ m
  | .undeclaredRelation p => "Undeclared relation: " ++ p
  | .duplicateAlias n => "Duplicate alias: " ++ n
  | .transport k m => "Transport error (" ++ k.word ++ "): " ++ m
  | .auth .credentials _ _ m => "Credential provider failed: " ++ m
  | .auth .server _ _ m => "Authentication rejected: " ++ m
  | .notFound => "No rows returned where exactly one was expected"
  | .multipleRows n => toString n ++ " rows returned where at most one was expected"
  | .database status ⟨some code, m, _, _⟩ =>
    "Database error " ++ code ++ " (" ++ toString status ++ "): " ++ m
  | .database status ⟨none, m, _, _⟩ => "Database error (" ++ toString status ++ "): " ++ m
  | .decode m => "Decode error: " ++ m

/-- What a caller did that no request can be made of. -/
inductive Fault where
  /- operands -/
  | listOperand (operator : String)
  | singleOperand (operator : String)
  | nullComparison (operator : String)
  | unorderedOperand (operator operand : String)
  | notAPattern (operator operand : String)
  | emptyMembership
  | notATest (operand : String)
  | notASearch (operator operand : String)
  /- filters and operator names -/
  | emptyGroup (junction : String)
  | unterminatedConfig (raw : String)
  | unknownOperator (name : String)
  | unexpectedConfig (name : String)
  /- selections and relations -/
  | emptySelectItem
  | missingExpression (raw : String)
  | invalidAlias (name raw : String)
  | invalidRelationName (raw : String)
  | invalidRelationAlias (raw : String)
  | unexpectedHint (hint raw : String)
  /- pagination -/
  | pageBelowOne (page : Nat)
  | reversedRange (first last : Nat)
  | nullCursor
  | unorderedCursor (column : String)
  | contraryCursor (column : String)
  | paginationConflict (requested existing : String)
  | tiebreakerWithoutCursor
  /- reads and writes -/
  | invalidTable (name : String)
  | filtersNotTaken (verb : String)
  | unserializableBody (reason : String)
  | conflictTargetNotTaken (verb : String)
  | skippingNotTaken (verb : String)
  | rowsNotObjects (verb : String)
  | patchNotObject
  | bodyNotRows (verb : String)
  | headInMode (mode : String)
  | pageRequired
  | pageOfHead
  | unboundRead
  | unboundWrite
  /- headers -/
  | invalidHeaderName (name reason : String)
  | invalidHeaderValue (name reason : String)
deriving Repr, DecidableEq

def Fault.toError : Fault → Error
  | .listOperand op => .invalidArgument ("'" ++ op ++ "' takes a single value, not a list")
  | .singleOperand op => .invalidArgument ("'" ++ op ++ "' takes a list of values")
  | .nullComparison op =>
    .invalidArgument ("'" ++ op ++ "' cannot compare against null; use an `is` filter")
  | .unorderedOperand op x =>
    .invalidArgument ("'" ++ op ++ "' requires an ordered value, got " ++ x)
  | .notAPattern op x => .invalidArgument ("'" ++ op ++ "' requires a string pattern, got " ++ x)
  | .emptyMembership => .invalidArgument "'in' requires a non-empty list"
  | .notATest x => .invalidArgument ("'is' accepts null or a boolean, got " ++ x)
  | .notASearch op x =>
    .invalidArgument ("'" ++ op ++ "' requires a non-empty search string, got " ++ x)
  | .emptyGroup j => .invalidArgument ("empty '" ++ j ++ "' group")
  | .unterminatedConfig raw => .invalidArgument ("unterminated operator config in '" ++ raw ++ "'")
  | .unknownOperator n => .invalidArgument ("unknown operator '" ++ n ++ "'")
  | .unexpectedConfig n => .invalidArgument ("operator '" ++ n ++ "' does not take a configuration")
  | .emptySelectItem => .invalidArgument "empty select item"
  | .missingExpression raw => .invalidArgument ("missing expression in '" ++ raw ++ "'")
  | .invalidAlias a raw => .invalidArgument ("invalid alias '" ++ a ++ "' in '" ++ raw ++ "'")
  | .invalidRelationName raw => .invalidArgument ("invalid relation name '" ++ raw ++ "'")
  | .invalidRelationAlias raw => .invalidArgument ("invalid relation alias '" ++ raw ++ "'")
  | .unexpectedHint h raw =>
    .invalidArgument ("unexpected relation hint '" ++ h ++ "' in '" ++ raw ++ "'")
  | .pageBelowOne p => .invalidArgument ("page numbers start at 1, got " ++ toString p)
  | .reversedRange first last =>
    .invalidArgument ("range end " ++ toString last ++ " is before start " ++ toString first)
  | .nullCursor => .invalidArgument "cursor value cannot be null"
  | .unorderedCursor c =>
    .invalidArgument ("cursor pagination on '" ++ c ++ "' requires an order on that column")
  | .contraryCursor c =>
    .invalidArgument ("cursor direction on '" ++ c ++ "' disagrees with its order direction")
  | .paginationConflict requested existing =>
    .invalidArgument
      ("cannot combine " ++ requested ++ " pagination with " ++ existing ++ " pagination")
  | .tiebreakerWithoutCursor => .invalidArgument "tiebreaker requires cursor pagination"
  | .invalidTable n => .invalidArgument ("invalid table name '" ++ n ++ "'")
  | .filtersNotTaken v => .invalidArgument (v ++ " does not take filters")
  | .unserializableBody r => .invalidArgument ("cannot serialize request body: " ++ r)
  | .conflictTargetNotTaken v =>
    .invalidArgument ("on_conflict is only valid for upsert, not " ++ v)
  | .skippingNotTaken v =>
    .invalidArgument ("ignore_duplicates is only valid for upsert, not " ++ v)
  | .rowsNotObjects v => .invalidArgument (v ++ " rows must be JSON objects")
  | .patchNotObject => .invalidArgument "update requires a JSON object patch"
  | .bodyNotRows v =>
    .invalidArgument (v ++ " requires a JSON object or a non-empty array of objects")
  | .headInMode m => .invalidState ("a head-only query cannot be executed in " ++ m ++ " mode")
  | .pageRequired => .invalidState "execute_with_pagination requires page(page, size)"
  | .pageOfHead => .invalidState "execute_with_pagination cannot run a head-only query"
  | .unboundRead => .invalidState "query builder is not bound to a client"
  | .unboundWrite => .invalidState "mutation builder is not bound to a client"
  | .invalidHeaderName n r => .invalidArgument ("invalid header name '" ++ n ++ "': " ++ r)
  | .invalidHeaderValue n r => .invalidArgument ("invalid value for header '" ++ n ++ "': " ++ r)

theorem Fault.isCompileError_toError (f : Fault) : f.toError.isCompileError = true := by
  cases f <;> rfl

end TableQuery
