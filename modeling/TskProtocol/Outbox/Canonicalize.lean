import TskProtocol.Json.RoundTrip
import TskProtocol.Outbox.Transport
import TskProtocol.Outbox.Utf8

namespace TskProtocol

def CANON_MAX_DEPTH : Nat := 64
def CANON_MAX_NODES : Nat := 10000

/-- A number: an integer, the negative zero, or any other. -/
inductive JsNumber
  | int (n : Int)
  | negativeZero
  | other

inductive JsValue
  | undefined | null | bigint | function | symbol
  | bool (b : Bool)
  | num (n : JsNumber)
  | str (s : JsString)
  | ref (address : Nat)

/-- A prototype other than the built-in ones may carry elements of its own. -/
inductive JsPrototype
  | objectPrototype | arrayPrototype | null
  | other (element : Nat → JsValue)

inductive JsProperty
  | data (value : JsValue) (enumerable : Bool)
  | accessor

/-- What `Array.isArray` tells apart. -/
inductive JsKind
  | array (length : UInt32)
  | object

/-- An object with the number of its symbol keys and its own properties, an array's `length` aside. -/
structure JsObject where
  kind : JsKind
  prototype : JsPrototype
  symbols : Nat := 0
  properties : List (JsString × JsProperty)
  nodup : (properties.map Prod.fst).Nodup

/-- The objects that values refer to.  They may refer to each other in circles. -/
def JsHeap := Nat → JsObject

inductive CanonicalizationError
  | loneSurrogate | stringTooLong | unsafeNumber | tooLarge | tooDeep | tooManyNodes
  | undefined | bigint | function | symbol
  | arraySymbol | nonIndexProperty | indexNotData | sparseArray
  | notPlain | symbolKeys | accessor | nonEnumerable | protoKey
  deriving DecidableEq, Repr

/-- What is written so far, within the budgets. -/
structure Canonicalizer where
  nodes : Nat := 0
  bytes : Nat := 0
  parts : JsString := []
  nodes_le : nodes ≤ CANON_MAX_NODES := by decide
  bytes_le : bytes ≤ CANON_MAX_TOTAL_BYTES := by decide

namespace Canonicalizer

def push (c : Canonicalizer) (s : JsString) : Except CanonicalizationError Canonicalizer :=
  if h : c.bytes + s.utf8.length ≤ CANON_MAX_TOTAL_BYTES then
    .ok { c with bytes := c.bytes + s.utf8.length, parts := c.parts ++ s, bytes_le := h }
  else .error .tooLarge

def countNode (c : Canonicalizer) : Except CanonicalizationError Canonicalizer :=
  if h : c.nodes + 1 ≤ CANON_MAX_NODES then .ok { c with nodes := c.nodes + 1, nodes_le := h }
  else .error .tooManyNodes

/-- The loops over elements and over keys. -/
def pushJoined {α : Type} (each : α → Canonicalizer → Except CanonicalizationError Canonicalizer) :
    List α → Canonicalizer → Except CanonicalizationError Canonicalizer
  | [], c => .ok c
  | [x], c => each x c
  | x :: rest, c => do
    let c ← each x c
    let c ← c.push (JsString.lit ",")
    pushJoined each rest c

end Canonicalizer

def jcsString (s : JsString) : Except CanonicalizationError JsString := do
  require (s.hasLoneSurrogate = false) .loneSurrogate
  require (s.utf8.length ≤ CANON_MAX_STRING_BYTES) .stringTooLong
  return s.quote

def jcsNumber : JsNumber → Except CanonicalizationError JsString
  | .int n => do
    require (isSafeInteger n) .unsafeNumber
    return JsString.ofInt n
  | .negativeZero => .ok (JsString.lit "0")
  | .other => .error .unsafeNumber

/-- `String(Number(k)) === k` for a natural number, up to the safe integers. -/
def isIndexName (name : JsString) : Bool :=
  name = JsString.ofNat (bigIntOf name) && (bigIntOf name : Int) ≤ MAX_SAFE_INTEGER

def isPlainObject (o : JsObject) : Bool :=
  match o.prototype with
  | .objectPrototype | .null => true
  | _ => false

/-- The elements of an array, or the members of an object in the order of their keys. -/
inductive JsContents
  | items (values : List JsValue)
  | members (members : List (JsString × JsValue))

namespace JsObject

/-- `v[i]` -/
def element (o : JsObject) (i : Nat) : JsValue :=
  match o.properties.find? (fun p => p.1 = JsString.ofNat i) with
  | some (_, .data value _) => value
  | some (_, .accessor) => .undefined
  | none =>
    match o.prototype with
    | .other element => element i
    | _ => .undefined

def checkIndex (p : JsString × JsProperty) : Except CanonicalizationError Unit := do
  require (isIndexName p.1) .nonIndexProperty
  match p.2 with
  | .data _ enumerable => require enumerable .indexNotData
  | .accessor => .error .indexNotData

def checkMember (p : JsString × JsProperty) : Except CanonicalizationError (JsString × JsValue) :=
  match p.2 with
  | .accessor => .error .accessor
  | .data value enumerable => do
    require enumerable .nonEnumerable
    require (p.1 ≠ JsString.lit "__proto__") .protoKey
    return (p.1, value)

/-- `names.sort()` -/
def sortNames (members : List (JsString × JsValue)) : List (JsString × JsValue) :=
  members.insertionSort fun a b => a.1.le b.1

/-- The checks that an object goes through before anything of it is written. -/
def contents (o : JsObject) : Except CanonicalizationError JsContents :=
  match o.kind with
  | .array length => do
    require (o.symbols = 0) .arraySymbol
    o.properties.forM checkIndex
    require (o.properties.length = length.toNat) .sparseArray
    return .items ((List.range length.toNat).map o.element)
  | .object => do
    require (isPlainObject o) .notPlain
    require (o.symbols = 0) .symbolKeys
    let members ← o.properties.mapM checkMember
    return .members (sortNames members)

end JsObject

namespace JsHeap

/-- `walk` of a value that is counted; `inner` walks what it holds. -/
def write (heap : JsHeap) (inner : JsValue → Canonicalizer → Except CanonicalizationError Canonicalizer)
    (c : Canonicalizer) : JsValue → Except CanonicalizationError Canonicalizer
  | .null => c.push (JsString.lit "null")
  | .bool b => c.push (JsString.lit (if b then "true" else "false"))
  | .num n => do
    let text ← jcsNumber n
    c.push text
  | .str s => do
    let text ← jcsString s
    c.push text
  | .undefined => .error .undefined
  | .bigint => .error .bigint
  | .function => .error .function
  | .symbol => .error .symbol
  | .ref address => do
    match ← (heap address).contents with
    | .items values => do
      let c ← c.push (JsString.lit "[")
      let c ← Canonicalizer.pushJoined inner values c
      c.push (JsString.lit "]")
    | .members members => do
      let c ← c.push (JsString.lit "\x7b")
      let c ← Canonicalizer.pushJoined (writeMember inner) members c
      c.push (JsString.lit "\x7d")
where
  writeMember (inner : JsValue → Canonicalizer → Except CanonicalizationError Canonicalizer)
      (member : JsString × JsValue) (c : Canonicalizer) : Except CanonicalizationError Canonicalizer := do
    let key ← jcsString member.1
    let c ← c.push (key ++ JsString.lit ":")
    inner member.2 c

/-- `walk`, with the number of levels left. -/
def walk (heap : JsHeap) : Nat → JsValue → Canonicalizer → Except CanonicalizationError Canonicalizer
  | 0, _, _ => .error .tooDeep
  | levels + 1, v, c => do
    let c ← c.countNode
    heap.write (heap.walk levels) c v

def canonicalize (heap : JsHeap) (v : JsValue) : Except CanonicalizationError JsString := do
  let c ← heap.walk (CANON_MAX_DEPTH + 1) v {}
  return c.parts

end JsHeap

end TskProtocol
