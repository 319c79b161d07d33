import NodeWarden.Flow

/-! Free local addresses. The system names a free port each time it is asked; ports that
were handed out a short while ago are passed over, so that consecutive answers differ. -/

namespace NodeWarden

/-- How many ports are remembered. -/
def recentWindow : Nat := 64

/-- How often the system is asked before an allocation is given up. -/
def maxAttempts : Nat := 16

/-- The ports handed out last, the oldest first. -/
structure RecentPorts where
  ports : List Nat := []
  deriving DecidableEq, Repr

/-- Notes a port, unless it is among the recent ones. -/
def RecentPorts.remember (r : RecentPorts) (port : Nat) : RecentPorts × Bool :=
  if r.ports.contains port then (r, false)
  else
    let kept := if r.ports.length = recentWindow then r.ports.drop 1 else r.ports
    (⟨kept ++ [port]⟩, true)

def findFreeWithin (host : Ip) : Nat → Flow (Except AddressError SocketAddr)
  | 0 => pure (.error (.exhausted host.text))
  | attempts + 1 => do
    match ← request (.bindAny host) with
    | .error fault => return .error (.probe (host.text ++ ":0") fault)
    | .ok port =>
      let isNew : Bool ← request (.remember port)
      if isNew then return .ok { ip := host, port }
      else findFreeWithin host attempts

/-- An address of `host` that is free at the time. -/
def findFree (host : Ip) : Flow (Except AddressError SocketAddr) :=
  findFreeWithin host maxAttempts

theorem RecentPorts.remember_of_mem {r : RecentPorts} {port : Nat} (h : port ∈ r.ports) :
    r.remember port = (r, false) := by
  unfold remember
  rw [if_pos (by simpa using h)]

theorem RecentPorts.remember_iff (r : RecentPorts) (port : Nat) :
    (r.remember port).2 = true ↔ port ∉ r.ports := by
  unfold remember
  split <;> simp_all

end NodeWarden
