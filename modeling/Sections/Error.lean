/-!
# Failures

Every way in which reading, resolving, editing or storing a document can fail, with its message.
-/

namespace Sections

/-- Opaque token that names one persisted version of a document. -/
structure Revision where
  token : String
  deriving DecidableEq, Repr, Inhabited

inductive EditFault where
  | deleteWithText
  | insertWithoutText
  | replaceWithoutText
  | unknownOperation (name : String)
  deriving DecidableEq, Repr

def EditFault.message : EditFault → String
  | deleteWithText => "delete must not carry replacement text"
  | insertWithoutText => "insert requires replacement text"
  | replaceWithoutText => "replace requires replacement text"
  | unknownOperation name => "unknown operation: " ++ name

inductive DocError where
  | notFound (id : String)
  | selectorMiss (path : String)
  | rangeOutOfBounds (start stop length : Nat)
  | invalidEdit (fault : EditFault)
  | invalidSelector (quotedRange : String)
  | revisionConflict (current : Revision)
  | parseFailure (reason : String)
  | invalidDocumentId (id : String)
  | io (reason : String)
  deriving DecidableEq, Repr

namespace DocError

def message : DocError → String
  | notFound id => "document not found: " ++ id
  | selectorMiss path => "selector did not resolve: " ++ path
  | rangeOutOfBounds start stop length =>
    "byte range [" ++ toString start ++ ", " ++ toString stop ++
      ") is out of bounds for text of length "
      ++ toString length
  | invalidEdit fault => "invalid edit: " ++ fault.message
  | invalidSelector quotedRange => "invalid selector: malformed byte range: " ++ quotedRange
  | revisionConflict current => "revision conflict: store is at revision " ++ current.token
  | parseFailure reason => "failed to parse markdown: " ++ reason
  | invalidDocumentId id => "document id escapes the store root: " ++ id
  | io reason => "store I/O error: " ++ reason

def currentRevision : DocError → Option Revision
  | revisionConflict current => some current
  | _ => none

def isRetryable (error : DocError) : Bool := error.currentRevision.isSome

end DocError

end Sections
