import NodeWarden.Address.Allocator

/-! One allocator and the calls that share it. Every call is a flow of its own, which the system
answers when it likes; to look a port up among the recent ones and to note it is one turn. -/

namespace NodeWarden

abbrev Allocation := Except AddressError SocketAddr

/-- The recent ports, and what every call so far has still to ask. -/
structure Allocator where
  recent : RecentPorts := {}
  calls : List (Flow Allocation) := []

inductive AllocatorEvent
  | begin
  /-- The system answers the bind of a call. -/
  | bound (id : Nat) (answer : Except String Nat)
  /-- A call has its turn at the recent ports. -/
  | turn (id : Nat)
  deriving Repr

def AllocatorEvent.call? : AllocatorEvent → Option Nat
  | .begin => none
  | .bound id _ | .turn id => some id

/-- A port that was looked up, and whether it was noted. -/
structure Lookup where
  port : Nat
  noted : Bool
  deriving DecidableEq, Repr

/-- One step and the look-up it makes, or nothing if it cannot happen. -/
def Allocator.step (host : Ip) (a : Allocator) :
    AllocatorEvent → Option (Allocator × Option Lookup)
  | .begin => some ({ a with calls := a.calls ++ [findFree host] }, none)
  | .bound id answer =>
    match a.calls[id]? with
    | some (.ask (.bindAny _) next) => some ({ a with calls := a.calls.set id (next answer) }, none)
    | _ => none
  | .turn id =>
    match a.calls[id]? with
    | some (.ask (.remember port) next) =>
      let (recent, noted) := a.recent.remember port
      some (⟨recent, a.calls.set id (next noted)⟩, some ⟨port, noted⟩)
    | _ => none

end NodeWarden
