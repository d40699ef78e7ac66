import SupervisorRelay.Library.IpAddr

/-! Socket addresses in text form, as Rust's `str::parse::<SocketAddr>` reads them: an
IPv4 address or an IPv6 address in brackets, and a port. -/

inductive SocketAddr where
  | v4 (one two three four : UInt8) (port : UInt16)
  | v6 (segments : Vector UInt16 8) (port : UInt16) (scopeId : UInt32)
deriving DecidableEq

namespace SocketAddr

/-- `read_number` with no limit on the digits. -/
def readUnlimited (bound : Nat) (input : List Char) : Option (Nat × List Char) :=
  IpAddr.readNumber 10 input.length bound true input

def readGivenChar (given : Char) : List Char → Option (List Char)
  | c :: rest => if c = given then some rest else none
  | [] => none

def readPort (input : List Char) : Option (UInt16 × List Char) := do
  let (port, rest) ← readUnlimited UInt16.size (← readGivenChar ':' input)
  return (UInt16.ofNat port, rest)

def readScopeId (input : List Char) : Option (UInt32 × List Char) := do
  let (scopeId, rest) ← readUnlimited UInt32.size (← readGivenChar '%' input)
  return (UInt32.ofNat scopeId, rest)

def readSocketAddrV4 (input : List Char) : Option (SocketAddr × List Char) := do
  let ((one, two, three, four), rest) ← IpAddr.readIpv4Addr input
  let (port, rest) ← readPort rest
  return (.v4 one two three four port, rest)

/-- A scope that cannot be read is `0`, and its text is left for the bracket to refuse. -/
def readSocketAddrV6 (input : List Char) : Option (SocketAddr × List Char) := do
  let (segments, rest) ← IpAddr.readIpv6Addr (← readGivenChar '[' input)
  let (scopeId, rest) := (readScopeId rest).getD (0, rest)
  let (port, rest) ← readPort (← readGivenChar ']' rest)
  return (.v6 segments port scopeId, rest)

/-- `str::parse`: the whole text is one socket address. -/
def parse (text : String) : Option SocketAddr :=
  match (readSocketAddrV4 text.toList).or (readSocketAddrV6 text.toList) with
  | some (address, []) => some address
  | _ => none

example : (parse "127.0.0.1:09443", parse "[::1%3]:65536", parse "[::%3]:0", parse "localhost:80") =
    (some (.v4 127 0 0 1 9443), none, some (.v6 #v[0, 0, 0, 0, 0, 0, 0, 0] 0 3), none) := by
  decide +kernel

end SocketAddr
