import NodeWarden.Text.Blank
import NodeWarden.Text.Numeral

/-! Socket addresses as text: dotted or colon-separated, with a port. Two texts mean the
same socket if their ports agree and so do their hosts, where an unspecified host agrees
with any. -/

namespace NodeWarden

inductive Ip
  | v4 (bits : BitVec 32)
  | v6 (bits : BitVec 128)
  deriving DecidableEq, Repr

structure SocketAddr where
  ip : Ip
  scope : Nat := 0
  port : Nat
  deriving DecidableEq, Repr

def Ip.loopback : Ip := .v4 0x7F000001

def Ip.isUnspecified : Ip → Bool
  | .v4 bits => bits == 0
  | .v6 bits => bits == 0

/-- Words of `width` bits, the most significant first, as one number. -/
def joinWords (width : Nat) (words : List Nat) : Nat :=
  words.foldl (fun n w => n * Nat.pow 2 width + w) 0

def octetsOf (bits : BitVec 32) : List Nat :=
  [3, 2, 1, 0].map fun i => bits.toNat / Nat.pow 256 i % 256

def groupsOf (bits : BitVec 128) : List Nat :=
  [7, 6, 5, 4, 3, 2, 1, 0].map fun i => bits.toNat / Nat.pow 65536 i % 65536

def decimalValue (ds : List Char) : Nat := ds.foldl (fun n d => n * 10 + (d.toNat - 48)) 0

def hexadecimalValue (ds : List Char) : Nat :=
  ds.foldl (fun n d => n * 16 + (hexValue? d).getD 0) 0

def isDigit (c : Char) : Bool := (digit? c).isSome

def expect (c : Char) : List Char → Option (List Char)
  | [] => none
  | d :: rest => if c = d then some rest else none

/-- A number of any length and at most `limit`. -/
def readDecimal (limit : Nat) (cs : List Char) : Option (Nat × List Char) :=
  let (ds, rest) := cs.span isDigit
  let n := decimalValue ds
  if ds.isEmpty || limit < n then none else some (n, rest)

/-- One to three digits; a zero leads only if it stands alone. -/
def readOctet (cs : List Char) : Option (Nat × List Char) :=
  let (ds, rest) := cs.span isDigit
  let n := decimalValue ds
  if ds.isEmpty || 3 < ds.length || (ds.head? == some '0' && ds.length != 1) || 255 < n then none
  else some (n, rest)

def readDotted (cs : List Char) : Option (List Nat × List Char) := do
  let (a, cs) ← readOctet cs
  let (b, cs) ← expect '.' cs >>= readOctet
  let (c, cs) ← expect '.' cs >>= readOctet
  let (d, cs) ← expect '.' cs >>= readOctet
  return ([a, b, c, d], cs)

/-- One to four hexadecimal digits. -/
def readGroup (cs : List Char) : Option (Nat × List Char) :=
  let (ds, rest) := cs.span isHexDigit
  if ds.isEmpty || 4 < ds.length then none else some (hexadecimalValue ds, rest)

/-- The groups on one side of `::`, and whether they end in a dotted part. -/
structure Groups where
  values : List Nat
  dotted : Bool
  rest : List Char

def readGroups : Nat → Bool → List Char → Groups
  | 0, _, cs => ⟨[], false, cs⟩
  | room + 1, first, cs =>
    let here := if first then some cs else expect ':' cs
    match if room = 0 then none else here >>= readDotted with
    | some ([a, b, c, d], rest) => ⟨[a * 256 + b, c * 256 + d], true, rest⟩
    | _ =>
      match here >>= readGroup with
      | some (g, rest) =>
        let more := readGroups room false rest
        { more with values := g :: more.values }
      | none => ⟨[], false, cs⟩

def readIpv6 (cs : List Char) : Option (BitVec 128 × List Char) :=
  let head := readGroups 8 true cs
  if head.values.length = 8 then some (.ofNat 128 (joinWords 16 head.values), head.rest)
  else if head.dotted then none
  else do
    let cs ← expect ':' head.rest >>= expect ':'
    let tail := readGroups (7 - head.values.length) true cs
    let gap := List.replicate (8 - head.values.length - tail.values.length) 0
    return (.ofNat 128 (joinWords 16 (head.values ++ gap ++ tail.values)), tail.rest)

def readPortPart (cs : List Char) : Option (Nat × List Char) :=
  expect ':' cs >>= readDecimal 65535

def readScope (cs : List Char) : Nat × List Char :=
  ((expect '%' cs >>= readDecimal 4294967295)).getD (0, cs)

def readSocketV4 (cs : List Char) : Option (SocketAddr × List Char) := do
  let (octets, cs) ← readDotted cs
  let (port, cs) ← readPortPart cs
  return ({ ip := .v4 (.ofNat 32 (joinWords 8 octets)), port }, cs)

def readSocketV6 (cs : List Char) : Option (SocketAddr × List Char) := do
  let (bits, cs) ← expect '[' cs >>= readIpv6
  let (scope, cs) := readScope cs
  let (port, cs) ← expect ']' cs >>= readPortPart
  return ({ ip := .v6 bits, scope, port }, cs)

def readSocket (cs : List Char) : Option (SocketAddr × List Char) :=
  readSocketV4 cs <|> readSocketV6 cs

/-- The whole of a reader's input, or nothing. -/
def wholly {α : Type} (read : List Char → Option (α × List Char)) (s : String) : Option α :=
  match read s.toList with
  | some (a, []) => some a
  | _ => none

def SocketAddr.parse? (s : String) : Option SocketAddr := wholly readSocket s

def dottedText (octets : List Nat) : String := ".".intercalate (octets.map toString)

def groupsText (groups : List Nat) : String :=
  ":".intercalate (groups.map fun g => String.ofList (hexDigits g))

/-- Start and length of the first of the longest runs of zeros. -/
def longestZeros (groups : List Nat) : Nat × Nat :=
  let step := fun ((best, start, len, i) : (Nat × Nat) × Nat × Nat × Nat) g =>
    if g = 0 then
      let start := if len = 0 then i else start
      (if best.2 < len + 1 then (start, len + 1) else best, start, len + 1, i + 1)
    else (best, start, 0, i + 1)
  (groups.foldl step ((0, 0), 0, 0, 0)).1

def Ip.text : Ip → String
  | .v4 bits => dottedText (octetsOf bits)
  | .v6 bits =>
    let groups := groupsOf bits
    if bits.toNat / 0x100000000 = 0xFFFF then
      "::ffff:" ++ dottedText (octetsOf (.ofNat 32 bits.toNat))
    else
      let (start, len) := longestZeros groups
      if 1 < len then groupsText (groups.take start) ++ "::" ++ groupsText (groups.drop (start + len))
      else groupsText groups

def SocketAddr.text (a : SocketAddr) : String :=
  match a.ip with
  | .v4 _ => a.ip.text ++ ":" ++ toString a.port
  | .v6 _ =>
    "[" ++ a.ip.text ++ (if a.scope = 0 then "" else "%" ++ toString a.scope) ++ "]:" ++
      toString a.port

/-- Whether two addresses can be taken by the same listener. -/
def SocketAddr.meets (a b : SocketAddr) : Bool :=
  a.port == b.port && (a.ip == b.ip || a.ip.isUnspecified || b.ip.isUnspecified)

def sameSocket (a b : String) : Bool :=
  match SocketAddr.parse? (trim a), SocketAddr.parse? (trim b) with
  | some a, some b => a.meets b
  | _, _ => trim a == trim b

theorem SocketAddr.meets_self (a : SocketAddr) : a.meets a = true := by simp [meets]

theorem SocketAddr.meets_comm (a b : SocketAddr) : a.meets b = b.meets a := by
  simp only [meets, Bool.beq_comm, Bool.or_assoc, Bool.or_comm b.ip.isUnspecified]

end NodeWarden
