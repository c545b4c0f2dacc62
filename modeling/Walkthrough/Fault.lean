import Walkthrough.Json.Display
import Walkthrough.Json.Wire
import Walkthrough.Url
import Walkthrough.Address
import Walkthrough.Validation
/-!
Everything that can go wrong, by cause: a refusal of the walkthrough itself, a value that cannot be
read, a failed exchange with a server, a failure of the page, or a value used as something that it
is not.
-/

namespace Walkthrough

inductive GuideError where
  | general (message code : String) (details : List (String × Json))
  | selectorSyntax (selector reason : String)
  | resolution (message selector : String) (count : Int)
  | action (message : String) (details : List (String × Json))
  | consistency (message : String) (details : List (String × Json))
  | transition (step current requested : String)

namespace GuideError

def message : GuideError → String
  | general message _ _ => message
  | selectorSyntax selector reason =>
      s!"Selector is not valid natively: {selector}" ++
        (if reason = "" then "" else s!" ({reason})")
  | resolution message _ _ => message
  | action message _ => message
  | consistency message _ => message
  | transition step current requested => s!"Step {step} cannot move from {current} to {requested}"

def code : GuideError → String
  | general _ code _ => code
  | selectorSyntax .. => "SELECTOR_SYNTAX"
  | resolution .. => "RESOLUTION"
  | action .. => "ACTION"
  | consistency .. => "CONSISTENCY"
  | transition .. => "STATE"

def details : GuideError → List (String × Json)
  | general _ _ details => details
  | selectorSyntax selector _ => [("selector", .text selector)]
  | resolution _ selector count => [("selector", .text selector), ("count", .int count)]
  | action _ details => details
  | consistency _ details => details
  | transition step current requested =>
      [("step_id", .text step), ("current", .text current), ("requested", .text requested)]

def isConsistency : GuideError → Bool
  | consistency .. => true
  | _ => false

def report (error : GuideError) : List (String × Json) :=
  [("code", .text error.code), ("message", .text error.message)] ++
    if error.details.isEmpty then [] else [("details", .object error.details)]

end GuideError

inductive Exchange where
  | status (message : String)
  | unreachable (message : String)
  | timedOut (message : String)
deriving DecidableEq, Repr

def Exchange.message : Exchange → String
  | status message => message
  | unreachable message => message
  | timedOut message => message

inductive Misuse where
  | noMember (kind member : String)
  | notIterable (kind : String)
  | notMapping (kind : String)
  | notContainer (kind : String)
  | noSetting (name : String)
  | unhashable (kind : String)
  | notIntegral (kind : String)
  | notReal (kind : String)
  | unordered (sign left right : String)
  | undividable (kind : String)
  | notPath (kind : String)
  | notPair (position length : Nat)
  | notSequence (position : Nat)
  | badInteger (literal : String)
  | badReal (literal : String)
  | tooManyDigits (count : Nat)
  | overlongNumber
  | infiniteInteger
  | undefinedInteger
  | oversizedReal
  | oversizedQuotient
  | notChoice (value : Json) (choices : String)
  | unknownAction (name : String)
  | noAction
  | notStepModel
  | notStepPayload
  | notSerializable
  | closedLog
  | noPage
  | badUrl (defect : Url.Defect)
  | badAddress (defect : Address.Defect)
  | notAddress (value : Json)
  | kindlessAddress (text : String)
  | unencodable (first : Char) (position count : Nat)
  | undecodable (defect : Text.Undecodable)

namespace Misuse

/-- The kinds of misuse that callers tell apart. -/
inductive Family where
  | member
  | kind
  | value
  | key
  | range
  | address
  | encoding
  | decoding
deriving DecidableEq, Repr

def family : Misuse → Family
  | noMember .. => .member
  | notIterable _ | notMapping _ | notContainer _ | noSetting _ | unhashable _ | notIntegral _
  | notReal _ | unordered .. | undividable _ | notPath _ | notSequence _ | notStepModel
  | notStepPayload | notSerializable | notAddress _ => .kind
  | notPair .. | badInteger _ | badReal _ | tooManyDigits _ | overlongNumber | undefinedInteger
  | notChoice .. | closedLog | noPage | badUrl _ | kindlessAddress _ => .value
  | unknownAction _ | noAction => .key
  | infiniteInteger | oversizedReal | oversizedQuotient => .range
  | badAddress _ => .address
  | unencodable .. => .encoding
  | undecodable _ => .decoding

/-- The quoted form of a text, of which no more than 200 characters are shown. -/
def excerpt (text : String) : String :=
  String.ofList ((Text.quoted text).toList.take 200)

def codeForm (letter : Char) : String :=
  let code := letter.toNat
  String.ofList <|
    if code < 0x100 then ['\\', 'x'] ++ Text.hexDigits 2 code
    else if code < 0x10000 then ['\\', 'u'] ++ Text.hexDigits 4 code
    else ['\\', 'U'] ++ Text.hexDigits 8 code

def undecodableMessage (defect : Text.Undecodable) : String :=
  let place := match defect.bytes with
    | [byte] => s!"byte 0x{String.ofList (Text.hexDigits 2 byte)} in position {defect.position}"
    | bytes => s!"bytes in position {defect.position}-{defect.position + bytes.length - 1}"
  s!"'{defect.encoding.name}' codec can't decode {place}: {defect.reason}"

def message : Misuse → String
  | noMember kind member => s!"'{kind}' object has no attribute '{member}'"
  | notIterable kind => s!"'{kind}' object is not iterable"
  | notMapping kind => s!"'{kind}' object is not a mapping"
  | notContainer kind => s!"argument of type '{kind}' is not iterable"
  | noSetting name => s!"GuideConfig.__init__() got an unexpected keyword argument '{name}'"
  | unhashable kind => s!"unhashable type: '{kind}'"
  | notIntegral kind =>
      s!"int() argument must be a string, a bytes-like object or a real number, not '{kind}'"
  | notReal kind => s!"float() argument must be a string or a real number, not '{kind}'"
  | unordered sign left right =>
      s!"'{sign}' not supported between instances of '{left}' and '{right}'"
  | undividable kind => s!"unsupported operand type(s) for /: '{kind}' and 'int'"
  | notPath kind => s!"expected str, bytes or os.PathLike object, not {kind}"
  | notPair position length =>
      s!"dictionary update sequence element #{position} has length {length}; 2 is required"
  | notSequence position =>
      s!"cannot convert dictionary update sequence element #{position} to a sequence"
  | badInteger literal => "invalid literal for int() with base 10: " ++ excerpt literal
  | badReal literal => s!"could not convert string to float: {Text.quoted literal}"
  | tooManyDigits count =>
      "Exceeds the limit (4300 digits) for integer string conversion: value has " ++
        s!"{count} digits; use sys.set_int_max_str_digits() to increase the limit"
  | overlongNumber =>
      "Exceeds the limit (4300 digits) for integer string conversion; " ++
        "use sys.set_int_max_str_digits() to increase the limit"
  | infiniteInteger => "cannot convert float infinity to integer"
  | oversizedQuotient => "integer division result too large for a float"
  | oversizedReal => "int too large to convert to float"
  | undefinedInteger => "cannot convert float NaN to integer"
  | notChoice value choices => s!"{value.quotedForm} is not a valid {choices}"
  | unknownAction name => s!"Unknown target action '{name}'"
  | noAction => "step payload has no target action"
  | notStepModel => "model must subclass StepDescriptor"
  | notStepPayload => "step payload must be a mapping"
  | notSerializable => "Object of type ValueError is not JSON serializable"
  | closedLog => "I/O operation on closed file."
  | noPage => "build_runtime needs a page or a dom bridge"
  | badUrl defect => defect.message
  | badAddress defect => defect.message
  | notAddress value =>
      "Invalid type for url.  Expected str or httpx.URL, got <class '" ++ value.kindName
        ++ "'>: " ++ value.quotedForm
  | kindlessAddress text => s!"unknown url type: {Text.quoted text}"
  | unencodable first position count =>
      "'ascii' codec can't encode " ++
        (if count = 1 then s!"character '{codeForm first}' in position {position}"
          else s!"characters in position {position}-{position + count - 1}")
        ++ ": ordinal not in range(128)"
  | undecodable defect => undecodableMessage defect

def ofInteger (literal : String) : Decimal.IntegerDefect → Misuse
  | .malformed => badInteger literal
  | .tooLong digits => tooManyDigits digits

end Misuse

inductive Fault where
  | guide (error : GuideError)
  | invalid (failure : Validation.Failure)
  | exchange (cause : Exchange)
  | unreadable (refusal : Json.Refusal)
  | page (message : String)
  | broken (message : String)
  | misuse (cause : Misuse)

namespace Fault

def message : Fault → String
  | guide error => error.message
  | invalid failure => failure.heading
  | exchange cause => cause.message
  | unreadable refusal => refusal.message
  | page message => message
  | broken message => message
  | misuse cause => cause.message

/-- The message as it stands inside another one, where a missing key is quoted. -/
def words (fault : Fault) : String :=
  match fault with
  | misuse cause =>
      if cause.family = .key then Text.quoted cause.message else cause.message
  | _ => fault.message

def isSelectorSyntax : Fault → Bool
  | guide (.selectorSyntax ..) => true
  | _ => false

def isConsistency : Fault → Bool
  | guide error => error.isConsistency
  | _ => false

def ofReadError : Json.ReadError → Fault
  | .refused refusal => unreadable refusal
  | .tooLong digits => misuse (.tooManyDigits digits)

def ofWireError : Json.WireError → Fault
  | .unread error => ofReadError error
  | .undecodable defect => misuse (.undecodable defect)

end Fault

end Walkthrough
