import NodeWarden.Flow
import NodeWarden.Spec.Check

/-! Whether a local address is free, found out by binding it. Nothing is reserved: the
address is released at once. -/

namespace NodeWarden

structure Lease where
  address : SocketAddr
  wasFree : Bool
  deriving DecidableEq, Repr

/-- Host and port of an address that is no socket address itself. -/
def splitHostPort (address : String) : Option (String × Nat) :=
  match splitLast ':' address.toList with
  | none => none
  | some (host, port) => (readPort port).toOption.map (String.ofList host, ·)

def resolveSocket (address : String) : Flow (Option SocketAddr) :=
  match SocketAddr.parse? address with
  | some socket => pure (some socket)
  | none =>
    match splitHostPort address with
    | some (host, port) => request (.resolve host port)
    | none => pure none

/-- An address in use, or one that this process may not bind, is not free. -/
def probe (address : String) : Flow (Except AddressError Lease) := do
  match ← resolveSocket address with
  | none => return .error (.invalid address)
  | some socket =>
    match ← request (.bind socket) with
    | .bound => return .ok ⟨socket, true⟩
    | .inUse | .denied => return .ok ⟨socket, false⟩
    | .unavailable => return .error (.invalid address)
    | .failed fault => return .error (.probe address fault)

/-- Whether an address cannot be bound; one that cannot be probed counts as taken. -/
def isTaken (address : String) : Flow Bool := do
  match ← probe address with
  | .ok lease => return !lease.wasFree
  | .error _ => return true

end NodeWarden
