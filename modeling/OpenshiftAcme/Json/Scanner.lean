import Mathlib.Algebra.Group.Int
import Mathlib.Data.List.Chain
import Mathlib.Data.List.Nodup
import Mathlib.Data.List.Pairwise

/-!
This module contains the part of Go's `encoding/json` that reads text, as of Go 1.13: the scanner
that `json.Unmarshal` runs over its whole input before it decodes anything (`checkValid`), the
`unquote` of string literals, and the tree of the values the scanner delimits. The scanner's
states become the functions that read a value: a string, a number, a literal, the members of an
object and the elements of an array, each failing with the message the Go scanner gives at the
first byte it cannot take. At the end of the input the Go scanner is fed a space, so a state that
refuses a space reports it, and one that takes it reports that the input ended early.
-/

namespace OpenshiftAcme.Json

def isSpace (c : Char) : Bool :=
  c = ' ' || c = '\t' || c = '\r' || c = '\n'

def isDigit (c : Char) : Bool :=
  '0' ≤ c && c ≤ '9'

def isHex (c : Char) : Bool :=
  isDigit c || ('a' ≤ c && c ≤ 'f') || ('A' ≤ c && c ≤ 'F')

def hexVal (c : Char) : Nat :=
  if c ≤ '9' then c.toNat - 48 else if c ≤ 'F' then c.toNat - 55 else c.toNat - 87

def hexDigit (d : Nat) : Char :=
  "0123456789abcdef".toList.getD d '0'

def leadByte (c : Char) : Nat :=
  if c.toNat < 0x80 then c.toNat
  else if c.toNat < 0x800 then 0xC0 + c.toNat / 0x40
  else if c.toNat < 0x10000 then 0xE0 + c.toNat / 0x1000
  else 0xF0 + c.toNat / 0x40000

def apostrophed (s : List Char) : String :=
  String.mk (Char.ofNat 39 :: s ++ [Char.ofNat 39])

def quoteChar (c : Char) : String :=
  let b := leadByte c
  if b = 39 then apostrophed ['\\', Char.ofNat 39]
  else if b = 34 then apostrophed ['"']
  else if b = 92 then apostrophed ['\\', '\\']
  else if b = 7 then apostrophed ['\\', 'a']
  else if b = 8 then apostrophed ['\\', 'b']
  else if b = 12 then apostrophed ['\\', 'f']
  else if b = 10 then apostrophed ['\\', 'n']
  else if b = 13 then apostrophed ['\\', 'r']
  else if b = 9 then apostrophed ['\\', 't']
  else if b = 11 then apostrophed ['\\', 'v']
  else if b < 0x20 then apostrophed ['\\', 'x', hexDigit (b / 16), hexDigit (b % 16)]
  else if b = 0x7F then apostrophed ['\\', 'u', '0', '0', '7', 'f']
  else apostrophed [Char.ofNat b]

def unexpectedEnd : String :=
  "unexpected end of JSON input"

def invalidChar (c : Char) (context : String) : String :=
  "invalid character " ++ quoteChar c ++ " " ++ context

def errSkip (context : String) : List Char → String
  | [] => unexpectedEnd
  | c :: _ => invalidChar c context

/-- A value as the scanner delimits it. An object member keeps the text of its value, which a
`json.Unmarshaler` such as `time.Time` receives unread. -/
inductive Value where
  | null
  | bool (b : Bool)
  | number (text : List Char)
  | string (s : List Char)
  | array (items : List Value)
  | object (members : List (List Char × List Char × Value))

def Value.kind : Value → String
  | .null => "null"
  | .bool _ => "bool"
  | .number _ => "number"
  | .string _ => "string"
  | .array _ => "array"
  | .object _ => "object"

/-! ## String literals -/

inductive StrState where
  /-- `stateInString` -/
  | body
  /-- `stateInStringEsc` -/
  | esc
  /-- `stateInStringEscU`, `...U1`, `...U12`, `...U123`: `n` digits read, of value `code`. -/
  | hex (n code : Nat)

def simpleEscape (c : Char) : Option Char :=
  if c = '"' ∨ c = '\\' ∨ c = '/' then some c
  else if c = 'b' then some '\x08'
  else if c = 'f' then some '\x0c'
  else if c = 'n' then some '\n'
  else if c = 'r' then some '\r'
  else if c = 't' then some '\t'
  else none

def isSurrogate (r : Nat) : Bool :=
  0xD800 ≤ r && r < 0xE000

def decodePair (r1 r2 : Nat) : Option Char :=
  if 0xD800 ≤ r1 ∧ r1 < 0xDC00 ∧ 0xDC00 ≤ r2 ∧ r2 < 0xE000 then
    some (Char.ofNat ((r1 - 0xD800) * 0x400 + (r2 - 0xDC00) + 0x10000))
  else none

def flushPending : Option Nat → List Char
  | some _ => ['�']
  | none => []

def decodeU (pending : Option Nat) (r : Nat) : List Char × Option Nat :=
  match pending with
  | some r1 =>
    match decodePair r1 r with
    | some c => ([c], none)
    | none => if isSurrogate r then (['�'], some r) else (['�', Char.ofNat r], none)
  | none => if isSurrogate r then ([], some r) else ([Char.ofNat r], none)

def emit (out : List Char) (r : Except String (List Char × List Char)) :
    Except String (List Char × List Char) :=
  r.map fun p => (out ++ p.1, p.2)

/--
The scanner inside a string literal, one byte a step, together with `unquote`, which decodes the
escapes of the literal the scanner accepted. The result is the decoded text and the input after
the closing quote.
-/
def scanStr : StrState → Option Nat → List Char → Except String (List Char × List Char)
  | .body, _, [] => .error unexpectedEnd
  | .esc, _, [] => .error (invalidChar ' ' "in string escape code")
  | .hex _ _, _, [] => .error (invalidChar ' ' "in \\u hexadecimal character escape")
  | .body, p, c :: cs =>
    if c = '"' then .ok (flushPending p, cs)
    else if c = '\\' then scanStr .esc p cs
    else if c.toNat < 0x20 then .error (invalidChar c "in string literal")
    else emit (flushPending p ++ [c]) (scanStr .body none cs)
  | .esc, p, c :: cs =>
    if c = 'u' then scanStr (.hex 0 0) p cs
    else match simpleEscape c with
      | some x => emit (flushPending p ++ [x]) (scanStr .body none cs)
      | none => .error (invalidChar c "in string escape code")
  | .hex n r, p, c :: cs =>
    if isHex c then
      if n = 3 then
        let d := decodeU p (r * 16 + hexVal c)
        emit d.1 (scanStr .body d.2 cs)
      else scanStr (.hex (n + 1) (r * 16 + hexVal c)) p cs
    else .error (invalidChar c "in \\u hexadecimal character escape")

def scanString (cs : List Char) : Except String (List Char × List Char) :=
  scanStr .body none cs

/-! ## Numbers and literals -/

def scanExponent (acc : List Char) : List Char → Except String (List Char × List Char)
  | [] => .ok (acc, [])
  | e :: cs =>
    if e = 'e' ∨ e = 'E' then
      let signed : List Char × List Char :=
        match cs with
        | s :: cs' => if s = '+' ∨ s = '-' then ([e, s], cs') else ([e], cs)
        | [] => ([e], [])
      match signed.2 with
      | d :: cs' =>
        if isDigit d then .ok (acc ++ signed.1 ++ d :: cs'.takeWhile isDigit, cs'.dropWhile isDigit)
        else .error (invalidChar d "in exponent of numeric literal")
      | [] => .error (invalidChar ' ' "in exponent of numeric literal")
    else .ok (acc, e :: cs)

def scanFraction (acc : List Char) : List Char → Except String (List Char × List Char)
  | [] => scanExponent acc []
  | c :: cs =>
    if c = '.' then
      match cs with
      | d :: cs' =>
        if isDigit d then
          scanExponent (acc ++ '.' :: d :: cs'.takeWhile isDigit) (cs'.dropWhile isDigit)
        else .error (invalidChar d "after decimal point in numeric literal")
      | [] => .error (invalidChar ' ' "after decimal point in numeric literal")
    else scanExponent acc (c :: cs)

def scanUnsigned (sign : List Char) : List Char → Except String (List Char × List Char)
  | [] => .error (invalidChar ' ' "in numeric literal")
  | d :: cs =>
    if d = '0' then scanFraction (sign ++ ['0']) cs
    else if isDigit d then scanFraction (sign ++ d :: cs.takeWhile isDigit) (cs.dropWhile isDigit)
    else .error (invalidChar d "in numeric literal")

def scanNumber : List Char → Except String (List Char × List Char)
  | [] => .error (invalidChar ' ' "in numeric literal")
  | c :: cs => if c = '-' then scanUnsigned ['-'] cs else scanUnsigned [] (c :: cs)

def literalContext (word : String) (x : Char) : String :=
  "in literal " ++ word ++ " (expecting " ++ apostrophed [x] ++ ")"

def expectLiteral (word : String) : List Char → List Char → Except String (List Char)
  | [], cs => .ok cs
  | x :: _, [] => .error (invalidChar ' ' (literalContext word x))
  | x :: xs, c :: cs =>
    if c = x then expectLiteral word xs cs else .error (invalidChar c (literalContext word x))

/-! ## Values -/

mutual

/--
`stateBeginValue` and what follows it: one value after any spaces. The fuel bounds the values and
members the text can hold, as each takes at least one byte; `parse` gives one more than the
length of the input.
-/
def parseValue : Nat → List Char → Except String (Value × List Char)
  | 0, _ => .error unexpectedEnd
  | n + 1, cs =>
    match cs.dropWhile isSpace with
    | [] => .error unexpectedEnd
    | c :: cs =>
      if c = '{' then
        match cs.dropWhile isSpace with
        | '}' :: rest => .ok (.object [], rest)
        | cs => (parseMembers n cs).map fun r => (.object r.1, r.2)
      else if c = '[' then
        match cs.dropWhile isSpace with
        | ']' :: rest => .ok (.array [], rest)
        | cs => (parseElements n cs).map fun r => (.array r.1, r.2)
      else if c = '"' then (scanString cs).map fun r => (.string r.1, r.2)
      else if c = '-' ∨ isDigit c then (scanNumber (c :: cs)).map fun r => (.number r.1, r.2)
      else if c = 't' then (expectLiteral "true" ['r', 'u', 'e'] cs).map fun r => (.bool true, r)
      else if c = 'f' then
        (expectLiteral "false" ['a', 'l', 's', 'e'] cs).map fun r => (.bool false, r)
      else if c = 'n' then (expectLiteral "null" ['u', 'l', 'l'] cs).map fun r => (.null, r)
      else .error (invalidChar c "looking for beginning of value")

def parseMembers : Nat → List Char → Except String (List (List Char × List Char × Value) × List Char)
  | 0, _ => .error unexpectedEnd
  | n + 1, cs =>
    match cs.dropWhile isSpace with
    | '"' :: cs =>
      match scanString cs with
      | .error e => .error e
      | .ok (key, cs) =>
        match cs.dropWhile isSpace with
        | ':' :: cs =>
          let start := cs.dropWhile isSpace
          match parseValue n start with
          | .error e => .error e
          | .ok (v, rest) =>
            let member := (key, start.take (start.length - rest.length), v)
            match rest.dropWhile isSpace with
            | ',' :: rest => (parseMembers n rest).map fun r => (member :: r.1, r.2)
            | '}' :: rest => .ok ([member], rest)
            | rest => .error (errSkip "after object key:value pair" rest)
        | cs => .error (errSkip "after object key" cs)
    | cs => .error (errSkip "looking for beginning of object key string" cs)

def parseElements : Nat → List Char → Except String (List Value × List Char)
  | 0, _ => .error unexpectedEnd
  | n + 1, cs =>
    match parseValue n cs with
    | .error e => .error e
    | .ok (v, rest) =>
      match rest.dropWhile isSpace with
      | ',' :: rest => (parseElements n rest).map fun r => (v :: r.1, r.2)
      | ']' :: rest => .ok ([v], rest)
      | rest => .error (errSkip "after array element" rest)

end

def parse (cs : List Char) : Except String Value :=
  match parseValue (cs.length + 1) cs with
  | .error e => .error e
  | .ok (v, rest) =>
    match rest.dropWhile isSpace with
    | [] => .ok v
    | c :: _ => .error (invalidChar c "after top-level value")

end OpenshiftAcme.Json
