import Mathlib.Algebra.Group.Nat.Defs
import Mathlib.Data.List.Basic
import SupervisorRelay.Library.JsonValues

/-! JSON as text: a compact writer, and the lexer of a reader. A value is a row of tokens,
and the compact text is the tokens one after the other. Results take any `SerdeJson` that
meets the laws; the one made here can be run, and is what their samples use. -/
namespace JsonText

inductive Token where
  | lbrace
  | rbrace
  | lbracket
  | rbracket
  | comma
  | colon
  | null
  | bool (value : Bool)
  | number (value : JsonNumber)
  | string (value : String)
deriving DecidableEq

/-- How numbers that are no integers are written and read. -/
structure FloatText where
  print : UInt64 → List Char
  read : List Char → Option UInt64

/-- A lower-case hexadecimal digit. -/
def hexDigit (value : Nat) : Char :=
  if value < 10 then Char.ofNat ('0'.toNat + value) else Char.ofNat ('a'.toNat + (value - 10))

/-- A character inside a string: only quotes, backslashes and controls are escaped. -/
def escape (c : Char) : List Char :=
  if c = '"' then ['\\', '"']
  else if c = '\\' then ['\\', '\\']
  else if c = '\x08' then ['\\', 'b']
  else if c = '\x0c' then ['\\', 'f']
  else if c = '\n' then ['\\', 'n']
  else if c = '\r' then ['\\', 'r']
  else if c = '\t' then ['\\', 't']
  else if c.toNat < 0x20 then
    ['\\', 'u', '0', '0', hexDigit (c.toNat / 16), hexDigit (c.toNat % 16)]
  else [c]

def renderString (value : String) : List Char :=
  '"' :: (value.toList.flatMap escape ++ ['"'])

def renderNumber (floats : FloatText) : JsonNumber → List Char
  | .posInt value => Nat.toDigits 10 value.toNat
  | .negInt value =>
      if value.toInt < 0 then '-' :: Nat.toDigits 10 value.toInt.natAbs
      else Nat.toDigits 10 value.toInt.natAbs
  | .float bits => floats.print bits

def Token.render (floats : FloatText) : Token → List Char
  | lbrace => ['{']
  | rbrace => ['}']
  | lbracket => ['[']
  | rbracket => [']']
  | comma => [',']
  | colon => [':']
  | null => ['n', 'u', 'l', 'l']
  | bool true => ['t', 'r', 'u', 'e']
  | bool false => ['f', 'a', 'l', 's', 'e']
  | number value => renderNumber floats value
  | string value => renderString value

mutual

def tokens : Json → List Token
  | .null => [.null]
  | .bool value => [.bool value]
  | .number value => [.number value]
  | .string value => [.string value]
  | .array items => .lbracket :: itemTokens items
  | .object members => .lbrace :: memberTokens members

/-- The items of an array and its end. -/
def itemTokens : List Json → List Token
  | [] => [.rbracket]
  | item :: rest => tokens item ++ moreItems rest

def moreItems : List Json → List Token
  | [] => [.rbracket]
  | item :: rest => .comma :: (tokens item ++ moreItems rest)

/-- The members of an object and its end. -/
def memberTokens : List (String × Json) → List Token
  | [] => [.rbrace]
  | (key, value) :: rest => .string key :: .colon :: (tokens value ++ moreMembers rest)

def moreMembers : List (String × Json) → List Token
  | [] => [.rbrace]
  | (key, value) :: rest =>
      .comma :: .string key :: .colon :: (tokens value ++ moreMembers rest)

end

def render (floats : FloatText) (row : List Token) : List Char :=
  row.flatMap (Token.render floats)

def toString (floats : FloatText) (value : Json) : String :=
  String.ofList (render floats (tokens value))

/-- A hexadecimal digit of either case. -/
def hexValue (c : Char) : Option Nat :=
  if c.isDigit then some (c.toNat - '0'.toNat)
  else if 'a' ≤ c ∧ c ≤ 'f' then some (c.toNat - 'a'.toNat + 10)
  else if 'A' ≤ c ∧ c ≤ 'F' then some (c.toNat - 'A'.toNat + 10)
  else none

/-- Where the lexer stands inside a string. Of a surrogate pair the first half is kept
until the second one is read. -/
inductive StringMode where
  | plain
  | escaped
  | hex (missing value : Nat) (high : Option Nat)
  | lowBackslash (high : Nat)
  | lowU (high : Nat)

inductive StringStep where
  | invalid
  | closed
  | next (mode : StringMode) (read : Option Char)

def simpleEscape : Char → Option Char
  | '"' => some '"'
  | '\\' => some '\\'
  | '/' => some '/'
  | 'b' => some '\x08'
  | 'f' => some '\x0c'
  | 'n' => some '\n'
  | 'r' => some '\r'
  | 't' => some '\t'
  | _ => none

/-- Four digits make a character, or half of one. -/
def codeUnit (value : Nat) : Option Nat → StringStep
  | none =>
      if 0xD800 ≤ value ∧ value < 0xDC00 then .next (.lowBackslash value) none
      else if 0xDC00 ≤ value ∧ value < 0xE000 then .invalid
      else .next .plain (some (Char.ofNat value))
  | some high =>
      if 0xDC00 ≤ value ∧ value < 0xE000 then
        .next .plain (some (Char.ofNat (0x10000 + (high - 0xD800) * 0x400 + (value - 0xDC00))))
      else .invalid

def StringMode.step : StringMode → Char → StringStep
  | plain, c =>
      if c = '"' then .closed
      else if c = '\\' then .next escaped none
      else if c.toNat < 0x20 then .invalid
      else .next plain (some c)
  | escaped, c =>
      match simpleEscape c with
      | some read => .next plain (some read)
      | none => if c = 'u' then .next (hex 3 0 none) none else .invalid
  | hex missing value high, c =>
      match hexValue c with
      | none => .invalid
      | some digit =>
        match missing with
        | 0 => codeUnit (value * 16 + digit) high
        | missing + 1 => .next (hex missing (value * 16 + digit) high) none
  | lowBackslash high, c => if c = '\\' then .next (lowU high) none else .invalid
  | lowU high, c => if c = 'u' then .next (hex 3 0 (some high)) none else .invalid

def isExponent (tail : List Char) : Bool :=
  match tail with
  | [] => true
  | e :: rest =>
      let digits := match rest with
        | sign :: digits => if sign = '+' ∨ sign = '-' then digits else rest
        | [] => []
      (e = 'e' ∨ e = 'E') && !digits.isEmpty && digits.all Char.isDigit

/-- What may follow the integer part of a number. -/
def isFraction : List Char → Bool
  | '.' :: rest =>
      !(rest.takeWhile Char.isDigit).isEmpty && isExponent (rest.dropWhile Char.isDigit)
  | tail => isExponent tail

/-- An integer that no integer type holds, and `-0`, are read as floats. -/
def readInteger (floats : FloatText) (text : List Char) (negative : Bool) (value : Nat) :
    Option JsonNumber :=
  if negative then
    if 0 < value ∧ value ≤ 2 ^ 63 then some (.negInt (Int64.ofInt (-value)))
    else (floats.read text).map .float
  else if value < 2 ^ 64 then some (.posInt (UInt64.ofNat value))
  else (floats.read text).map .float

def readUnsigned (floats : FloatText) (text : List Char) (negative : Bool)
    (unsigned : List Char) : Option JsonNumber :=
  let digits := unsigned.takeWhile Char.isDigit
  let tail := unsigned.dropWhile Char.isDigit
  if digits = [] ∨ (digits.head? = some '0' ∧ digits.length ≠ 1) then none
  else if tail = [] then readInteger floats text negative (Nat.ofDigitChars 10 digits 0)
  else if isFraction tail then (floats.read text).map .float
  else none

def readNumber (floats : FloatText) : List Char → Option JsonNumber
  | '-' :: unsigned => readUnsigned floats ('-' :: unsigned) true unsigned
  | text => readUnsigned floats text false text

def isNumberChar (c : Char) : Bool :=
  c.isDigit || c == '-' || c == '+' || c == '.' || c == 'e' || c == 'E'

def readWord : List Char → Option Token
  | ['n', 'u', 'l', 'l'] => some .null
  | ['t', 'r', 'u', 'e'] => some (.bool true)
  | ['f', 'a', 'l', 's', 'e'] => some (.bool false)
  | _ => none

/-- Where the lexer stands; what it has read of a token is kept last character first. -/
inductive LexMode where
  | between
  | string (mode : StringMode) (read : List Char)
  | number (read : List Char)
  | word (read : List Char)

/-- Between tokens, a character starts one, is one, or is white space. -/
def lexBetween (c : Char) : Option (List Token × LexMode) :=
  if c = ' ' ∨ c = '\n' ∨ c = '\t' ∨ c = '\r' then some ([], .between)
  else if c = '{' then some ([.lbrace], .between)
  else if c = '}' then some ([.rbrace], .between)
  else if c = '[' then some ([.lbracket], .between)
  else if c = ']' then some ([.rbracket], .between)
  else if c = ',' then some ([.comma], .between)
  else if c = ':' then some ([.colon], .between)
  else if c = '"' then some ([], .string .plain [])
  else if c = '-' ∨ c.isDigit = true then some ([], .number [c])
  else if c.isAlpha then some ([], .word [c])
  else none

/-- A number or a word goes on as long as its characters do. -/
def LexMode.step (floats : FloatText) : LexMode → Char → Option (List Token × LexMode)
  | between, c => lexBetween c
  | string mode read, c =>
      match mode.step c with
      | .invalid => none
      | .closed => some ([.string (String.ofList read.reverse)], between)
      | .next mode c => some ([], string mode (c.toList ++ read))
  | number read, c =>
      if isNumberChar c then some ([], number (c :: read))
      else do
        let value ← readNumber floats read.reverse
        let (row, mode) ← lexBetween c
        return (.number value :: row, mode)
  | word read, c =>
      if c.isAlpha then some ([], word (c :: read))
      else do
        let token ← readWord read.reverse
        let (row, mode) ← lexBetween c
        return (token :: row, mode)

def LexMode.finish (floats : FloatText) : LexMode → Option (List Token)
  | between => some []
  | string _ _ => none
  | number read => (readNumber floats read.reverse).map fun value => [.number value]
  | word read => (readWord read.reverse).map fun token => [token]

def lex (floats : FloatText) (mode : LexMode) : List Char → Option (List Token)
  | [] => mode.finish floats
  | c :: rest => do
      let (row, mode) ← mode.step floats c
      let others ← lex floats mode rest
      return row ++ others

end JsonText
