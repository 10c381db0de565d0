import TskProtocol.Js

namespace TskProtocol

/-- `\w` of a regular expression without the `u` flag. -/
def isWordUnit (c : UInt16) : Bool :=
  (48 ≤ c && c ≤ 57) || (65 ≤ c && c ≤ 90) || c = 95 || (97 ≤ c && c ≤ 122)

/-- `\s`, which is also what `trim` removes. -/
def isSpaceUnit (c : UInt16) : Bool :=
  (9 ≤ c && c ≤ 13) || c = 32 || c = 0xA0 || c = 0x1680 || (0x2000 ≤ c && c ≤ 0x200A) ||
    c = 0x2028 || c = 0x2029 || c = 0x202F || c = 0x205F || c = 0x3000 || c = 0xFEFF

def lowerUnit (c : UInt16) : UInt16 := if 65 ≤ c && c ≤ 90 then c + 32 else c

def trimStart (s : JsString) : JsString := s.dropWhile isSpaceUnit

def trim (s : JsString) : JsString := (trimStart (trimStart s).reverse).reverse

/-- What follows the word, whose case does not matter, at the start of a string. -/
def dropWord (word s : JsString) : Option JsString :=
  if (s.take word.length).map lowerUnit = word then some (s.drop word.length) else none

section Lexer

def skipLineComment (s : JsString) : JsString := s.dropWhile (fun c => c ≠ 10)

/-- Behind the end of a block comment; comments nest. -/
def skipBlockComment : Nat → JsString → JsString
  | depth, c :: d :: rest =>
    if c = 47 ∧ d = 42 then skipBlockComment (depth + 1) rest
    else if c = 42 ∧ d = 47 then
      if depth ≤ 1 then rest else skipBlockComment (depth - 1) rest
    else skipBlockComment depth (d :: rest)
  | _, _ => []

/-- Behind the quote that ends a string; both kinds of escape are read. -/
def skipString : JsString → JsString
  | c :: d :: rest =>
    if c = 92 then skipString rest
    else if c = 39 then if d = 39 then skipString rest else d :: rest
    else skipString (d :: rest)
  | _ => []

def skipIdentifier : JsString → JsString
  | c :: d :: rest =>
    if c = 34 then if d = 34 then skipIdentifier rest else d :: rest
    else skipIdentifier (d :: rest)
  | _ => []

/-- The tag at the start of a dollar-quoted string, both dollars included. -/
def dollarTag : JsString → Option JsString
  | c :: rest =>
    let word := rest.takeWhile isWordUnit
    if c = 36 ∧ (word = [] ∨ word.head?.any (fun d => ¬ (48 ≤ d ∧ d ≤ 57))) ∧
        (rest.drop word.length).head? = some 36 then some (36 :: word ++ [36])
    else none
  | [] => none

/-- Behind the first occurrence of a tag. -/
def skipTo (tag : JsString) : JsString → JsString
  | [] => []
  | c :: rest => if tag.isPrefixOf (c :: rest) then (c :: rest).drop tag.length else skipTo tag rest

/-- The loop of `sqlToCode`; every round consumes a code unit. -/
def sqlToCodeFrom : Nat → JsString → JsString
  | 0, _ | _, [] => []
  | fuel + 1, c :: rest =>
    if c = 45 ∧ rest.head? = some 45 then 32 :: sqlToCodeFrom fuel (skipLineComment rest.tail)
    else if c = 47 ∧ rest.head? = some 42 then 32 :: sqlToCodeFrom fuel (skipBlockComment 1 rest.tail)
    else if c = 39 then 39 :: 39 :: sqlToCodeFrom fuel (skipString rest)
    else match dollarTag (c :: rest) with
      | some tag => 39 :: 39 :: sqlToCodeFrom fuel (skipTo tag (rest.drop (tag.length - 1)))
      | none =>
        if c = 34 then JsString.lit "\"x\"" ++ sqlToCodeFrom fuel (skipIdentifier rest)
        else c :: sqlToCodeFrom fuel rest

def sqlToCode (sql : JsString) : JsString := sqlToCodeFrom sql.length sql

end Lexer

/-- The verbs of `TX_CONTROL_LEAD`. -/
def txControlVerbs : List JsString :=
  ["begin", "start", "commit", "end", "rollback", "abort", "savepoint", "release", "discard", "set",
    "reset", "prepare", "do", "call", "create", "listen", "unlisten", "load"].map JsString.lit

def isTxControl (lead : JsString) : Bool :=
  txControlVerbs.any fun verb => (dropWord verb lead).any fun rest => !rest.head?.any isWordUnit

/-- Whether a test holds at some place where a word starts. -/
def anyWordStart (test : JsString → Bool) : Bool → JsString → Bool
  | _, [] => false
  | afterWord, c :: rest =>
    (!afterWord && test (c :: rest)) || anyWordStart test (isWordUnit c) rest

/-- The arguments of a call of `set_config`, with all that follows. -/
def setConfigArguments (s : JsString) : Option JsString := do
  let rest := trimStart (← dropWord (JsString.lit "set_config") s)
  if rest.head? = some 40 then some rest.tail else none

/-- Whether the first closing parenthesis follows `, true`. -/
def endsTxLocal (arguments : JsString) : Bool :=
  let inside := arguments.takeWhile (fun c => c ≠ 41)
  inside.length < arguments.length &&
    (dropWord (JsString.lit "true").reverse (trimStart inside.reverse)).any fun before =>
      (trimStart before).head? = some 44

inductive QueryRefusal
  | transactionControl | sessionSetConfig | multipleStatements
  deriving DecidableEq, Repr

def assertCallerQueryAllowed (sql : JsString) : Except QueryRefusal Unit := do
  let code := trim (sqlToCode sql)
  require (¬ isTxControl (code.dropWhile (fun c => c = 40 || c = 39 || c = 34 || isSpaceUnit c)))
    .transactionControl
  require (anyWordStart (fun s => (setConfigArguments s).isSome) false code →
    anyWordStart (fun s => (setConfigArguments s).any endsTxLocal) false code) .sessionSetConfig
  require (trim ((code.dropWhile (fun c => c ≠ 59)).drop 1) = []) .multipleStatements

example : assertCallerQueryAllowed (JsString.lit "/* a /* b */ c */ Commit") =
    .error .transactionControl := by decide +kernel

example : assertCallerQueryAllowed (JsString.lit "SELECT ';' -- ; \n FROM $q$ ; $q$;") = .ok () := by
  decide +kernel

/-- A backslash escapes nothing in a standard string, so the server reads two statements here. -/
example : assertCallerQueryAllowed (JsString.lit "SELECT '\\'; COMMIT --'") = .ok () := by
  decide +kernel

end TskProtocol
