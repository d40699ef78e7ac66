import Mathlib.Data.Nat.Basic

/-! IP addresses and their text form, read as Rust's `str::parse::<IpAddr>` reads it:
each reader takes a prefix of the text and leaves the rest, or takes nothing. -/

inductive IpAddr where
  | v4 (one two three four : UInt8)
  | v6 (segments : Vector UInt16 8)
deriving DecidableEq

namespace IpAddr

/-- `char::to_digit`, for the radixes 10 and 16. -/
def toDigit (radix : Nat) (c : Char) : Option Nat :=
  let value :=
    if c.isDigit then some (c.toNat - '0'.toNat)
    else if 'a' ≤ c ∧ c ≤ 'f' then some (c.toNat - 'a'.toNat + 10)
    else if 'A' ≤ c ∧ c ≤ 'F' then some (c.toNat - 'A'.toNat + 10)
    else none
  value.filter (· < radix)

/-- The digits at the front of the text, with their number and value. -/
def readDigits (radix : Nat) : List Char → Nat → Nat → Nat × Nat × List Char
  | [], count, value => (count, value, [])
  | c :: rest, count, value =>
      match toDigit radix c with
      | some digit => readDigits radix rest (count + 1) (value * radix + digit)
      | none => (count, value, c :: rest)

/-- `read_number` below a bound: at most `maxDigits` digits, and no `0` before another
digit unless `allowZeroPrefix`. -/
def readNumber (radix maxDigits bound : Nat) (allowZeroPrefix : Bool) (input : List Char) :
    Option (Nat × List Char) :=
  let (count, value, rest) := readDigits radix input 0 0
  if count > maxDigits then none
  else if count = 0 then none
  else if !allowZeroPrefix && input.head? == some '0' && count > 1 then none
  else if value < bound then some (value, rest)
  else none

/-- `read_separator`: every item but the first comes after the separator. -/
def readSeparator (separator : Char) (index : Nat) (inner : List Char → Option (α × List Char))
    (input : List Char) : Option (α × List Char) :=
  if index = 0 then inner input
  else
    match input with
    | c :: rest => if c = separator then inner rest else none
    | [] => none

/-- An octet of an IPv4 address; a number like `010` is not one. -/
def readOctet (index : Nat) (input : List Char) : Option (UInt8 × List Char) := do
  let (value, rest) ← readSeparator '.' index (readNumber 10 3 256 false) input
  return (UInt8.ofNat value, rest)

def readIpv4Addr (input : List Char) :
    Option ((UInt8 × UInt8 × UInt8 × UInt8) × List Char) := do
  let (one, rest) ← readOctet 0 input
  let (two, rest) ← readOctet 1 rest
  let (three, rest) ← readOctet 2 rest
  let (four, rest) ← readOctet 3 rest
  return ((one, two, three, four), rest)

/-- `u16::from_be_bytes`. -/
def fromBeBytes (high low : UInt8) : UInt16 :=
  UInt16.ofNat (high.toNat * 256 + low.toNat)

/-- `read_groups`: up to `remaining` groups from number `index` on, and whether an
embedded IPv4 address, which stands for two groups, ended them. -/
def readGroups : Nat → Nat → List Char → List UInt16 × Bool × List Char
  | 0, _, input => ([], false, input)
  | remaining + 1, index, input =>
      let embedded := if remaining = 0 then none else readSeparator ':' index readIpv4Addr input
      match embedded with
      | some ((one, two, three, four), rest) =>
          ([fromBeBytes one two, fromBeBytes three four], true, rest)
      | none =>
          match readSeparator ':' index (readNumber 16 4 65536 true) input with
          | some (group, rest) =>
              let (groups, isIpv4, rest) := readGroups remaining (index + 1) rest
              (UInt16.ofNat group :: groups, isIpv4, rest)
          | none => ([], false, input)

theorem readGroups_length (remaining index : Nat) (input : List Char) :
    (readGroups remaining index input).1.length ≤ remaining := by
  induction remaining generalizing index input with
  | zero => simp [readGroups]
  | succ remaining ih =>
      rw [readGroups]
      dsimp only
      split
      · rename_i hembedded
        split at hembedded
        · cases hembedded
        · simp only [List.length_cons, List.length_nil]
          omega
      · split
        · rename_i rest _
          have hrest := ih (index + 1) rest
          simp only [List.length_cons]
          omega
        · simp

/-- The groups after `::` leave room for one that it stands for. -/
theorem groups_fit {head tail : Nat} (hhead : head ≤ 8) (htail : tail ≤ 8 - (head + 1)) :
    head + tail ≤ 8 := by
  omega

/-- Eight groups from those before and those after `::`. -/
def fillGroups (head tail : List UInt16) (h : head.length + tail.length ≤ 8) : Vector UInt16 8 :=
  ⟨(head ++ List.replicate (8 - head.length - tail.length) 0 ++ tail).toArray, by
    simp only [List.size_toArray, List.length_append, List.length_replicate]
    omega⟩

/-- `read_ipv6_addr`: eight groups, or fewer with one `::` for at least one more. -/
def readIpv6Addr (input : List Char) : Option (Vector UInt16 8 × List Char) :=
  let head := readGroups 8 0 input
  if h : head.1.length = 8 then some (fillGroups head.1 [] (Nat.le_of_eq h), head.2.2)
  else if head.2.1 then none
  else
    match head.2.2 with
    | ':' :: ':' :: rest =>
        let tail := readGroups (8 - (head.1.length + 1)) 0 rest
        have hfit := groups_fit (readGroups_length 8 0 input) (readGroups_length _ 0 rest)
        some (fillGroups head.1 tail.1 hfit, tail.2.2)
    | _ => none

def readIpAddr (input : List Char) : Option (IpAddr × List Char) :=
  match readIpv4Addr input with
  | some ((one, two, three, four), rest) => some (.v4 one two three four, rest)
  | none => (readIpv6Addr input).map fun read => (.v6 read.1, read.2)

/-- `str::parse`: the whole text is one address. -/
def parse (text : String) : Option IpAddr :=
  match readIpAddr text.toList with
  | some (address, []) => some address
  | _ => none

example : (parse "10.0.0.7", parse "10.0.0.07", parse "::ffff:10.0.0.7") =
    (some (.v4 10 0 0 7), none, some (.v6 #v[0, 0, 0, 0, 0, 0xffff, 0x0a00, 7])) := by
  decide +kernel

end IpAddr
