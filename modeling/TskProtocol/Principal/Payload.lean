import TskProtocol.Json.RoundTrip
import TskProtocol.Lib.OrderedMap

namespace TskProtocol

inductive PrincipalError
  | providerRequired | providerSessionIdRequired | policyDigestRequired
  | proofExpired | nonceTooShort | proofInvalid
  | unknownPrincipal | unknownStream
  | unserializable
  | core (e : CoreError)
  deriving DecidableEq, Repr

/-- A value in memory.  `unserializable` is one that `JSON.stringify` throws on: a `BigInt`, or an
object that contains itself. -/
inductive PayloadValue
  | undefined
  | null
  | bool (b : Bool)
  | num (n : Int)
  | str (s : JsString)
  | unserializable
  | arr (items : List PayloadValue)
  | obj (members : List (JsString × PayloadValue))

abbrev PayloadRecord := List (JsString × PayloadValue)

def REDACTED : JsString := JsString.lit "[REDACTED]"

/-- The alternatives of `SENSITIVE_FIELD`. -/
def SENSITIVE_WORDS : List String :=
  ["secret", "token", "password", "private", "credential", "apikey", "api_key", "api-key",
    "sharedsecret", "shared_secret", "shared-secret", "rawkey", "raw_key", "raw-key", "authorization"]

/-- `SENSITIVE_FIELD.test(fieldName)`. -/
def isSensitiveField (fieldName : JsString) : Bool :=
  SENSITIVE_WORDS.any fun word => (fieldName.map toLowerAscii).tails.any (JsString.lit word).isPrefixOf

/-- An assignment to it sets the prototype and leaves no member. -/
def PROTO : JsString := JsString.lit "__proto__"

namespace PayloadValue

mutual

/-- `sanitizeCaptureValue` of a value whose field name is not sensitive. -/
def sanitize : PayloadValue → PayloadValue
  | .arr items => .arr (sanitizeItems items)
  | .obj members => .obj (sanitizeMembers members)
  | value => value

def sanitizeItems : List PayloadValue → List PayloadValue
  | [] => []
  | item :: rest => item.sanitize :: sanitizeItems rest

def sanitizeMembers : PayloadRecord → PayloadRecord
  | [] => []
  | (key, value) :: rest =>
    if key = PROTO then sanitizeMembers rest
    else (key, if isSensitiveField key then .str REDACTED else value.sanitize) :: sanitizeMembers rest

end

mutual

/-- The JSON value that `JSON.stringify` writes; `none` is written as nothing at all. -/
def toJson : PayloadValue → Except PrincipalError (Option Json)
  | .undefined => .ok none
  | .null => .ok (some .null)
  | .bool b => .ok (some (.bool b))
  | .num n => .ok (some (.num n))
  | .str s => .ok (some (.str s))
  | .unserializable => .error .unserializable
  | .arr items => do return some (.arr (← itemsToJson items))
  | .obj members => do return some (.obj (← membersToJson members))

def itemsToJson : List PayloadValue → Except PrincipalError (List Json)
  | [] => .ok []
  | item :: rest => do
    let value ← item.toJson
    return value.getD .null :: (← itemsToJson rest)

def membersToJson : PayloadRecord → Except PrincipalError (List (JsString × Json))
  | [] => .ok []
  | (key, value) :: rest =>
    if key = PROTO then membersToJson rest
    else do
      let written ← value.toJson
      return (written.map fun json => (key, json)).toList ++ (← membersToJson rest)

end

end PayloadValue

/-- The index that a key is, when it is one. -/
def arrayIndex (key : JsString) : Option Nat :=
  match JsString.parseNat key with
  | some (n, []) => if n < 4294967295 then some n else none
  | _ => none

/-- The order of the properties that `sortValue` sets: indices come first, as numbers. -/
def propertyLe (a b : JsString) : Bool :=
  match arrayIndex a, arrayIndex b with
  | some m, some n => m ≤ n
  | some _, none => true
  | none, some _ => false
  | none, none => a.le b

/-- The module's own `canonicalJson`.  Of `undefined` there is no text to hash. -/
def canonicalJson (value : PayloadValue) : Except PrincipalError JsString := do
  let json ← value.toJson
  return ((← orThrow json .unserializable).sorted propertyLe).stringify

end TskProtocol
