import ClusterSubmission.Mismatch
import ClusterSubmission.Value.Text

/-!
# Failures

An operation that fails says why, and every reason belongs to one kind of failure. The kinds of the
submission itself are a family: a missing or invalid parameter, a resource manager that cannot be
reached, one that declines, and one that does not trust the caller. They carry the application and
the step of the submission once those are known.
-/
namespace ClusterSubmission

/-- The ways in which a request fails before an answer is accepted. -/
inductive TransportFault where
  | other | connection | timeout | connectTimeout | readTimeout | proxy | tls | status | redirects
  | address | scheme | chunking
  deriving DecidableEq, Repr

/-- The kinds of failures. -/
inductive FailureKind where
  | submission | configuration | communication | rejected | auth
  | transport (fault : TransportFault)
  | mismatch | malformed | value | missingKey | wrongType | noAttribute | malformedXml
  | illFormedText | system | isDirectory | notDirectory | fileExists | notFound | runtime
  | interrupt | markup | overflow | lookup | position
  deriving DecidableEq, Repr

def FailureKind.isSubmission : FailureKind → Bool
  | .submission | .configuration | .communication | .rejected | .auth => true
  | _ => false

/-- The kinds of the family that a kind belongs to, the narrowest first. -/
def FailureKind.lineage : FailureKind → List FailureKind
  | .submission => [.submission]
  | .configuration => [.configuration, .submission]
  | .communication => [.communication, .submission]
  | .rejected => [.rejected, .submission]
  | .auth => [.auth, .submission]
  | _ => []

/-- An interrupt stops the program and is never treated as the failure of a step. -/
def FailureKind.isInterrupt : FailureKind → Bool
  | .interrupt => true
  | _ => false

/-- What is wrong with a point in time that cannot be. -/
inductive MomentFault where
  | year (year : Nat)
  | month | day | hour | minute | second
  | offset (text : String)
  deriving DecidableEq, Repr

/-- The words for a point in time that cannot be. -/
def MomentFault.text : MomentFault → String
  | .year n => "year " ++ Text.natText n ++ " is out of range"
  | .month => "month must be in 1..12"
  | .day => "day is out of range for month"
  | .hour => "hour must be in 0..23"
  | .minute => "minute must be in 0..59"
  | .second => "second must be in 0..59"
  | .offset text =>
    "offset must be a timedelta strictly between -timedelta(hours=24) and timedelta(hours=24), not "
      ++ text

/-- What is wrong with a template that cannot be filled in. -/
inductive TemplateFault where
  | incomplete
  | incompleteKey
  | unknownSign (sign : Char) (index : Nat)
  | noInteger
  deriving DecidableEq, Repr

def TemplateFault.text : TemplateFault → String
  | .incomplete => "incomplete format"
  | .incompleteKey => "incomplete format key"
  | .unknownSign c index =>
    let shown := if 0x1f ≤ c.toNat && c.toNat ≤ 0x7e then c else '?'
    "unsupported format character '" ++ String.singleton shown ++ "' (0x"
      ++ String.ofList (Nat.toDigits 16 c.toNat) ++ ") at index " ++ Text.natText index
  | .noInteger => "cannot convert float NaN to integer"

/-- Why an operation fails. -/
inductive Reason where
  | given (kind : FailureKind) (args : List Value)
  | versionUnreadable (text : String)
  | versionMissing
  | memoryNotPositive (memory : String)
  | launcherMissing
  | parametersFrozen (handle state : String)
  | nameEmpty
  | memoryInvalid (literal : String)
  | hostEmpty
  | resourceNameEmpty
  | resourceInvalid (name kindName : String)
  | priorityInvalid (literal : String)
  | attemptsInvalid (literal : String)
  | queueEmpty
  | launcherEmpty
  | typeEmpty
  | alreadySubmitted (handle state : String)
  | hostMissing
  | addressMissing
  | interpolationCycle (key : String)
  | siteFilesMissing (directory : String)
  | settingsUnreadable (path detail : String)
  | settingsNotMapping (path : String)
  | settingsInvalid (detail : String)
  | sessionClosed
  | sessionToClosed (address : String)
  | messageUnexpected (model detail : String)
  | requestFailed (kind : FailureKind) (text : String)
  | applicationNotAlive (handle state diagnostics : String)
  | tokenDeclined (detail : String)
  | applicationUnknown (handle : String)
  | mismatch (m : Mismatch)
  | malformedDocument
  | illFormedText
  | malformedXml
  | encodingUnknown (name : String)
  | encodingTooWide
  | applicationIdInvalid (text : String)
  | integerTooLong (digits : Nat)
  | integerTextTooLong
  | integerUnreadable (base : Nat) (text : String)
  | numberUnreadable (text : String)
  | momentInvalid (fault : MomentFault)
  | templateInvalid (fault : TemplateFault)
  | characterMissing
  | variableNameInvalid
  | variableWithNul
  | notAMember (family : String) (members : List String)
  | byteRange
  | pairLength (index length : Nat)
  | levelUnknown (name : String)
  | wrongType
  | noAttribute
  | overflow
  | isDirectory (path : String)
  | notDirectory (path : String)
  | fileExists (path : String)
  | notFound (path : String)
  | malformedAddress (text : String)
  | addressInvalid (text : String)
  | schemeMissing (text : String)
  | unmatchedTag (tag : String) (position : Nat)
  | nothingToClose (position : Nat)
  | handlerUnreadable (parameters : String)
  | statusFailed (text : String)

/-- The kind that a reason belongs to. -/
def Reason.kind : Reason → FailureKind
  | .given kind _ => kind
  | .requestFailed kind _ => kind
  | .versionUnreadable _ | .versionMissing | .memoryNotPositive _ | .launcherMissing
  | .parametersFrozen .. | .nameEmpty | .memoryInvalid _ | .hostEmpty | .resourceNameEmpty
  | .resourceInvalid .. | .priorityInvalid _ | .attemptsInvalid _ | .queueEmpty | .launcherEmpty
  | .typeEmpty | .alreadySubmitted .. | .hostMissing | .addressMissing | .interpolationCycle _
  | .siteFilesMissing _ | .settingsUnreadable .. | .settingsNotMapping _
  | .settingsInvalid _ => .configuration
  | .sessionClosed | .sessionToClosed _ | .messageUnexpected .. => .communication
  | .applicationNotAlive .. | .tokenDeclined _ | .applicationUnknown _ => .auth
  | .mismatch _ => .mismatch
  | .malformedDocument => .malformed
  | .illFormedText => .illFormedText
  | .malformedXml => .malformedXml
  | .encodingUnknown _ => .lookup
  | .characterMissing => .position
  | .applicationIdInvalid _ | .integerTooLong _ | .integerTextTooLong | .notAMember .. | .byteRange
  | .pairLength .. | .levelUnknown _ | .malformedAddress _ | .encodingTooWide
  | .integerUnreadable .. | .numberUnreadable _ | .momentInvalid _ | .variableNameInvalid
  | .variableWithNul | .templateInvalid _ => .value
  | .wrongType => .wrongType
  | .noAttribute => .noAttribute
  | .overflow => .overflow
  | .isDirectory _ => .isDirectory
  | .notDirectory _ => .notDirectory
  | .fileExists _ => .fileExists
  | .notFound _ => .notFound
  | .unmatchedTag .. | .nothingToClose _ | .handlerUnreadable _ => .markup
  | .statusFailed _ => .transport .status
  | .addressInvalid _ => .transport .address
  | .schemeMissing _ => .transport .scheme

/-- Whether a kind describes trouble of the operating system, whose arguments are a number, a text
and names of files. -/
def FailureKind.isSystem : FailureKind → Bool
  | .system | .isDirectory | .notDirectory | .fileExists | .notFound | .transport _ => true
  | _ => false

/-- The text of given arguments: nothing for none, the text of a single one, all of them as a tuple
otherwise. A missing key stands as its literal, and trouble of the operating system begins with its
number. -/
def givenText (kind : FailureKind) (args : List Value) : String :=
  match kind, args with
  | _, [] => ""
  | .missingKey, [v] => v.literal
  | _, [v] => v.plain
  | kind, v :: w :: rest =>
    if !kind.isSystem || 3 < rest.length then (Value.tuple args).plain
    else
      let head := "[Errno " ++ v.plain ++ "] " ++ w.plain
      match rest with
      | [] => head
      | [f] | [f, _] => head ++ ": " ++ f.literal
      | f :: _ :: g :: _ => head ++ ": " ++ f.literal ++ " -> " ++ g.literal

/-- The words of a reason. -/
def Reason.message : Reason → String
  | .given kind args => givenText kind args
  | .versionUnreadable text => "Can't parse Hadoop version from '" ++ text ++ "'"
  | .versionMissing => "The ResourceManager didn't report its version"
  | .memoryNotPositive memory => "Driver memory must be positive, got " ++ memory ++ " MB"
  | .launcherMissing => "No launcher entry point set for the driver command"
  | .parametersFrozen handle state =>
    "Can't change the parameters of application '" ++ handle ++ "' in state " ++ state
  | .nameEmpty => "The application name must not be empty"
  | .memoryInvalid literal =>
    "Driver memory must be a positive number of MB, got " ++ literal
  | .hostEmpty => "The driver host must not be empty, use '*' for any host"
  | .resourceNameEmpty => "The local resource name must not be empty"
  | .resourceInvalid name kindName =>
    "Expected a LocalResource for '" ++ name ++ "', got " ++ kindName
  | .priorityInvalid literal => "The priority must be a non-negative integer, got " ++ literal
  | .attemptsInvalid literal => "The application attempts must be at least 1, got " ++ literal
  | .queueEmpty => "The queue name must not be empty"
  | .launcherEmpty => "The launcher must not be empty"
  | .typeEmpty => "The application type must not be empty"
  | .alreadySubmitted handle state =>
    "Application '" ++ handle ++ "' can't be submitted in state " ++ state
  | .hostMissing =>
    "No driver host set. Use `set_driver_node` with a host name or '*' for any host"
  | .addressMissing =>
    "No ResourceManager address configured. Set `rm_address` or `HADOOP_CONF_DIR`."
  | .interpolationCycle key =>
    "Hadoop configuration key '" ++ key ++ "' is part of an interpolation cycle"
  | .siteFilesMissing directory =>
    "No config files found in the directory '" ++ directory ++ "'. You can specify the Hadoop "
      ++ "configuration directory by setting the `HADOOP_CONF_DIR` or `YARN_CONF_DIR` "
      ++ "environment variables."
  | .settingsUnreadable path detail => "Can't read settings file " ++ path ++ ": " ++ detail
  | .settingsNotMapping path => "Settings file " ++ path ++ " must hold a mapping"
  | .settingsInvalid detail => "Invalid settings: " ++ detail
  | .sessionClosed => "session closed"
  | .sessionToClosed address => "Session to " ++ address ++ " is closed"
  | .messageUnexpected model detail => "Unexpected " ++ model ++ " message: " ++ detail
  | .requestFailed _ text => text
  | .applicationNotAlive handle state diagnostics =>
    "No credential for application '" ++ handle ++ "' in state " ++ state ++ ": " ++ diagnostics
  | .tokenDeclined detail =>
    "The ResourceManager declined the delegation token request: " ++ detail
  | .applicationUnknown handle =>
    "Application '" ++ handle ++ "' is unknown to the ResourceManager"
  | .mismatch m => m.message
  | .malformedDocument => "<parser>"
  | .applicationIdInvalid text => "'" ++ text ++ "' is not a YARN application id"
  | .integerTooLong digits =>
    "Exceeds the limit (4300 digits) for integer string conversion: value has "
      ++ Text.natText digits
      ++ " digits; use sys.set_int_max_str_digits() to increase the limit"
  | .integerTextTooLong =>
    "Exceeds the limit (4300 digits) for integer string conversion; "
      ++ "use sys.set_int_max_str_digits() to increase the limit"
  | .integerUnreadable base text =>
    "invalid literal for int() with base " ++ Text.natText base ++ ": " ++ Text.quoted text
  | .numberUnreadable text => "could not convert string to float: " ++ Text.quoted text
  | .momentInvalid fault => fault.text
  | .templateInvalid fault => fault.text
  | .characterMissing => "string index out of range"
  | .variableNameInvalid => "illegal environment variable name"
  | .variableWithNul => "embedded null byte"
  | .notAMember family members =>
    Text.quoted family ++ " must be in " ++ Value.tupleText (members.map Text.quoted)
  | .pairLength index length =>
    "dictionary update sequence element #" ++ Text.natText index ++ " has length "
      ++ Text.natText length ++ "; 2 is required"
  | .byteRange => "bytes must be in range(0, 256)"
  | .encodingUnknown name => "unknown encoding: " ++ name
  | .encodingTooWide => "multi-byte encodings are not supported"
  | .levelUnknown name => "Unknown level: " ++ Text.quoted name
  | .isDirectory path => "[Errno 21] Is a directory: " ++ Text.quoted path
  | .notDirectory path => "[Errno 20] Not a directory: " ++ Text.quoted path
  | .fileExists path => "[Errno 17] File exists: " ++ Text.quoted path
  | .notFound path => "[Errno 2] No such file or directory: " ++ Text.quoted path
  | .malformedAddress text => text
  | .addressInvalid text => text
  | .schemeMissing text => text
  | .unmatchedTag tag position =>
    "closing tag '" ++ tag ++ "' at position " ++ Text.natText position
      ++ " doesn't match any open tag"
  | .nothingToClose position =>
    "closing tag '[/]' at position " ++ Text.natText position ++ " has nothing to close"
  | .handlerUnreadable parameters => "error parsing " ++ Text.quoted parameters
  | .statusFailed text => text
  | .illFormedText | .malformedXml | .wrongType | .noAttribute | .overflow => ""

/-- Why a value has no literal, if it has none: one of its integers has too many digits. -/
def Value.literalFault? (v : Value) : Option Reason :=
  if v.isBelow textBound then none else some .integerTextTooLong

/-- Why a value has no text, if it has none: it is a handle whose id is no text, or one of its
integers has too many digits. -/
def Value.textFault? : Value → Option Reason
  | .text _ | .handle (.text _) => none
  | .handle _ => some .wrongType
  | v => v.literalFault?

/-- The text of a value that has one. -/
def Value.shown (v : Value) : Except Reason String := v.textFault?.elim (.ok v.plain) .error

/-- A failed operation: the reason, the application and the step it belongs to, the status code the
resource manager declined with, the kind of the failure that caused it, and added notes. -/
structure Failure where
  reason : Reason
  applicationId : Value := .null
  step : Value := .null
  statusCode : Value := .null
  cause : Option FailureKind := none
  notes : List String := []

def Reason.failure (r : Reason) : Failure := { reason := r }

def Failure.kind (f : Failure) : FailureKind := f.reason.kind

def Failure.message (f : Failure) : String := f.reason.message

def Failure.causedBy (f cause : Failure) : Failure := { f with cause := some cause.kind }

end ClusterSubmission
