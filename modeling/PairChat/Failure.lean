import PairChat.Value.Shown

/-!
# Failures: why an operation has no answer

A `Failure` is a cause.  Its wording, if it has one, is `Failure.message`; failures that stem from
the shape of a document or from the surroundings have none.  `Failure.isReported` says which
failures the command line reports to its user, and `Failure.isChatFailure` which ones a caller of
the chat operations is meant to tell apart.
-/

namespace PairChat

/-- Why a text is no handle. -/
inductive HandleFault where
  | blank
  | reserved (handle : String)
deriving DecidableEq, Repr

/-- What a handle was wanted for. -/
inductive Purpose where
  | chat
  | block
  | unblock
deriving DecidableEq, Repr

/-- Which account is missing: that of the owner of the chats, the one a homeserver was asked for, or
the one that a home server name could be taken from. -/
inductive AccountGap where
  | owner
  | reply
  | server
deriving DecidableEq, Repr

/-- A request that a provider rejects. Code and text are kept as the provider gave them. -/
structure Rejection where
  status : Int
  code : Value
  text : Value
deriving DecidableEq, Repr

/-- Options that do not go together. -/
inductive OptionsFault where
  | mixed
  | memoryWithPlace
  | creationElsewhere
  | accountElsewhere
  | negativeDelay
deriving DecidableEq, Repr

/-- Why no provider is found. -/
inductive DiscoveryFault where
  | pathMissing (path : String)
  | noStore
  | nothing
  | sourceWithoutPath (origin : String)
  | undetermined
deriving DecidableEq, Repr

/-- A row that stands in the way of a new one, or that it lacks. -/
inductive RowFault where
  | userExists (user : String)
  | noCreator (user : String)
  | noInvitee (user : String)
deriving DecidableEq, Repr

/-- What a document lacks: the operation that was tried on a value of another shape, or of another
size. -/
inductive ShapeFault where
  | attribute
  | type
  | key
  | index
  | value
  | overflow
  | depth
deriving DecidableEq, Repr

/-- What is wrong with a place in the file tree. -/
inductive FileFault where
  | missing
  | exists
  | notDirectory
  | isDirectory
  | tooLong
deriving DecidableEq, Repr

/-- Why an operation has no answer. -/
inductive Failure where
  | badHandle (fault : HandleFault)
  | unknownHandle (purpose : Purpose)
  | chatExists
  | roomNotFound (chat : String)
  | alone
  | noAccount (gap : AccountGap)
  | rejected (rejection : Rejection)
  | options (fault : OptionsFault)
  | notFound (fault : DiscoveryFault)
  | storeMissing (path : String)
  | row (fault : RowFault)
  | needsStore (operation : String)
  | shape (fault : ShapeFault)
  | file (fault : FileFault) (path : String)
  | badJson
  | badYaml
  | unreachable
  | constraint
  | assertion
  | storeUnreadable
  | storeCorrupt
  | connectionClosed
  | notEncodable
  /-- A text that was given to a store has halves in it. -/
  | unencodable (text : String)
  | notDecodable
  | notStorable
  | badLocation
  | noClient
deriving DecidableEq, Repr

/-! ### Wording -/

namespace HandleFault

/-- The wording of a handle fault. -/
def message : HandleFault → String
  | .blank => "Handle id must not be empty"
  | .reserved h => "Handle id " ++ Text.quoted h ++ " must not contain '@' or ':'"

end HandleFault

namespace Purpose

/-- The purpose as it stands in a message. -/
def word : Purpose → String
  | .chat => "chat to"
  | .block => "block"
  | .unblock => "unblock"

end Purpose

namespace AccountGap

/-- The wording of a missing account. -/
def message : AccountGap → String
  | .owner => "Owner identifier is not available"
  | .reply => "Homeserver did not return an account id"
  | .server => "Unable to determine the home server"

end AccountGap

namespace Rejection

/-- A rejection with a status, a code and a text. -/
def ofTexts (status : Int) (code text : String) : Rejection := ⟨status, .text code, .text text⟩

/-- The code that says that something does not exist. -/
def notFoundCode : String := "M_NOT_FOUND"

/-- Does the rejection say that something does not exist? -/
def isNotFound (r : Rejection) : Bool := r.status == 404 || r.code == .text notFoundCode

/-- The wording of a rejection: its status, then its code if there is one, then its text. -/
def message (r : Rejection) : String :=
  "Provider error " ++ toString r.status ++ ": "
    ++ (if r.code.isEmpty then r.text.plain else r.code.plain ++ ": " ++ r.text.plain)

end Rejection

namespace OptionsFault

/-- The wording of an options fault. -/
def message : OptionsFault → String
  | .mixed => "Cannot mix local options (path, local, in_memory) with remote options (url). "
      ++ "Choose one provider type."
  | .memoryWithPlace => "in_memory cannot be combined with path or local options."
  | .creationElsewhere => "create_if_missing only applies to local providers, not remote."
  | .accountElsewhere => "user_id only applies to local providers; remote accounts are "
      ++ "selected by access_token."
  | .negativeDelay => "settle_delay must not be negative."

end OptionsFault

namespace DiscoveryFault

/-- The wording of a discovery fault. -/
def message : DiscoveryFault → String
  | .pathMissing path => "DIRECTCHATS_PATH points to non-existent directory: " ++ path
  | .noStore => "No local .directchats directory found. "
      ++ "Create one with: DirectChats.create_local() or directchats local init"
  | .nothing => "No directchats configuration found. Options:\n"
      ++ "  - Create a local .directchats: directchats local init\n"
      ++ "  - Set DIRECTCHATS_URL and DIRECTCHATS_ACCESS_TOKEN\n"
      ++ "  - Add a default source: directchats source add ... --default"
  | .sourceWithoutPath origin => "Local source has no path (" ++ origin ++ ")"
  | .undetermined => "Unable to determine provider from options"

end DiscoveryFault

namespace RowFault

/-- The wording of a row fault. -/
def message : RowFault → String
  | .userExists user => "User " ++ user ++ " already exists"
  | .noCreator user => "Creator " ++ user ++ " not found"
  | .noInvitee user => "Invitee " ++ user ++ " not found"

end RowFault

namespace FileFault

/-- The wording of a file fault, with its number. -/
def message (path : String) : FileFault → String
  | .missing => "[Errno 2] No such file or directory: " ++ Text.quoted path
  | .exists => "[Errno 17] File exists: " ++ Text.quoted path
  | .notDirectory => "[Errno 20] Not a directory: " ++ Text.quoted path
  | .isDirectory => "[Errno 21] Is a directory: " ++ Text.quoted path
  | .tooLong => "[Errno 36] File name too long: " ++ Text.quoted path

end FileFault

namespace Failure

/-- The wording of a failure, if it has one. -/
def message : Failure → Option String
  | .badHandle fault => some fault.message
  | .unknownHandle purpose => some ("Handle to " ++ purpose.word ++ " does not exist")
  | .chatExists => some "Direct chat already exists"
  | .roomNotFound chat => some ("Room " ++ chat ++ " not found")
  | .alone => some "Direct chat membership not available"
  | .noAccount gap => some gap.message
  | .rejected r => some r.message
  | .options fault => some fault.message
  | .notFound fault => some fault.message
  | .storeMissing path => some ("Local directchats store not found: " ++ path)
  | .row fault => some fault.message
  | .needsStore operation => some (operation ++ " requires a local or in-memory provider")
  | .file fault path => some (fault.message path)
  | .shape _ | .badJson | .badYaml | .unreachable | .constraint | .assertion | .storeUnreadable
  | .storeCorrupt | .connectionClosed | .notEncodable | .unencodable _ | .notDecodable
  | .notStorable | .badLocation | .noClient => none

/-- Is it one of the failures that callers of the chat operations tell apart? -/
def isChatFailure : Failure → Bool
  | .badHandle _ | .unknownHandle _ | .chatExists | .roomNotFound _ | .alone | .noAccount _
  | .rejected _ => true
  | _ => false

/-- Is it one of the failures that the command line reports? -/
def isReported : Failure → Bool
  | .options _ | .notFound _ | .storeMissing _ | .file .missing _ => true
  | f => f.isChatFailure

/-- Does the failure say that a provider knows nothing of what was asked for? -/
def isNotFound : Failure → Bool
  | .rejected r => r.isNotFound
  | _ => false

end Failure

namespace Value

/-- A value as it stands in a message, if it can be written. -/
def spelled (v : Value) : Except Failure String :=
  if v.fits then .ok v.plain else .error (.shape .value)

/-- A value as it stands inside another one, if it can be written. -/
def quotedText (v : Value) : Except Failure String :=
  if v.fits then .ok v.shown else .error (.shape .value)

end Value

end PairChat
