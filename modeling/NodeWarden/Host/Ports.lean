import NodeWarden.Address.Allocator
import NodeWarden.Address.Probe
import NodeWarden.Text.Ascii
import NodeWarden.Text.Split

/-! The network of a rehearsed host: which addresses are held, which ports the system names
when it is asked for a free one, and the few host names that it knows. -/

namespace NodeWarden

structure Ports where
  held : List (String × SocketAddr) := []
  nextPort : Nat := 40001
  /-- Ports that mean something else, and are not named while there are others. -/
  reserved : List Nat := []
  deriving Repr

/-- The ports that the system names when any will do, the first of every second one and where they
end: the odd ones of the lower half of its range, the even ones, and the upper half likewise. -/
def namedPorts : List (Nat × Nat) :=
  [(32769, 46884), (32768, 46884), (46885, 61000), (46884, 61000)]

/-- An address of the older kind in the notation of the newer one is that address. -/
def Ip.plain : Ip → Ip
  | .v4 bits => .v4 bits
  | .v6 bits =>
    if bits.toNat / 0x100000000 = 0xFFFF then .v4 (.ofNat 32 bits.toNat) else .v6 bits

/-- Whether a listener on `a` keeps one on `b` from the same port. -/
def Ip.excludes (a b : Ip) : Bool :=
  match a.plain, b.plain with
  | .v4 x, .v4 y => x == y || x == 0 || y == 0
  | .v6 x, .v6 y => x == y || x == 0 || y == 0
  | .v4 _, .v6 y => y == 0
  | .v6 x, .v4 _ => x == 0

namespace Ports

def isHeld (p : Ports) (a : SocketAddr) : Bool :=
  p.held.any fun (_, h) => h.port == a.port && h.ip.excludes a.ip

def bind (p : Ports) (a : SocketAddr) : BindOutcome :=
  if a.port = 0 then .bound
  else if a.port < 1024 then .denied
  else if p.isHeld a then .inUse
  else .bound

def isFree (p : Ports) (port : Nat) : Bool := !p.held.any fun (_, h) => h.port == port

/-- The next of some ports that will do, from `port` on and round. -/
def nextAmong (willDo : Nat → Bool) (first limit : Nat) : Nat → Nat → Option Nat
  | 0, _ => none
  | fuel + 1, port =>
    let port := if first ≤ port && port < limit && (port - first) % 2 == 0 then port else first
    if willDo port then some port else nextAmong willDo first limit fuel (port + 2)

/-- The port that the system names, and the ports from then on, unless all are held. -/
def takeFree (p : Ports) : Option (Nat × Ports) :=
  let named := namedPorts.findSome? fun (first, limit) =>
    let next := fun willDo => nextAmong willDo first limit ((limit - first + 1) / 2) p.nextPort
    next (fun port => p.isFree port && !p.reserved.contains port) <|> next p.isFree
  named.map fun port => (port, { p with nextPort := port + 2 })

def hold (p : Ports) (name : String) (a : SocketAddr) : Ports :=
  { p with held := (name, a) :: p.held }

def release (p : Ports) (name : String) : Ports :=
  { p with held := p.held.filter fun (n, _) => n != name }

end Ports

/-- The value of digits in a base. -/
def baseValue? (base : Nat) (cs : List Char) : Option Nat :=
  cs.foldlM (fun n c => do
    let d ← hexValue? c
    if d < base then some (n * base + d) else none) 0

/-- A part of a numeric host: decimal, or octal after a zero, or hexadecimal after `0x`. -/
def hostPart? : List Char → Option Nat
  | [] => none
  | '0' :: 'x' :: ds => if ds.isEmpty then none else baseValue? 16 ds
  | '0' :: 'X' :: ds => if ds.isEmpty then none else baseValue? 16 ds
  | '0' :: ds => baseValue? 8 ds
  | ds => baseValue? 10 ds

/-- Up to four numbers with points between them; the last one fills what is left. -/
def numericHost? (host : String) : Option Ip := do
  let parts ← (splitEach '.' host.toList).mapM hostPart?
  let last ← parts.getLast?
  let front := parts.dropLast
  if 3 < front.length || front.any (255 < ·) || Nat.pow 256 (4 - front.length) ≤ last then none
  else some (.v4 (.ofNat 32 (joinWords 8 front * Nat.pow 256 (4 - front.length) + last)))

def resolveHost (host : String) (port : Nat) : Option SocketAddr :=
  if eqIgnoreCase host "localhost" then some { ip := .loopback, port }
  else
    match numericHost? host with
    | some ip => some { ip, port }
    | none => do
      let (bits, rest) ← readIpv6 host.toList
      let (scope, rest) := readScope rest
      if rest.isEmpty then some { ip := .v6 bits, scope, port } else none

end NodeWarden
