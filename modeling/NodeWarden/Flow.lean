import NodeWarden.Status.Basic
import NodeWarden.Teardown

/-! Flows: what is asked of the world, one request at a time, and how each answer is followed.
A flow decides nothing about the world, so a statement about all of its runs is a statement
about all worlds. -/

namespace NodeWarden

inductive BindOutcome
  | bound
  | inUse
  | denied
  | unavailable
  | failed (fault : String)
  deriving DecidableEq, Repr

inductive Request
  | list
  | details (name : NodeName)
  | identity (name : String)
  | delete (name : NodeName)
  /-- Builds the command that starts a node, without running it. -/
  | prepare (config : String)
  /-- Runs the command that was built last, as the program of a node. -/
  | spawn (name : NodeName)
  | resolve (host : String) (port : Nat)
  /-- Binds an address and releases it at once. -/
  | bind (address : SocketAddr)
  /-- Binds any free port of a host and releases it at once. -/
  | bindAny (host : Ip)
  /-- Notes a port, unless it was noted a short while ago. -/
  | remember (port : Nat)
  | drawSuffix
  | makeClient (brokers : List String)
  deriving DecidableEq

def Request.Answer : Request → Type
  | .list => Except NodeError (List NodeName)
  | .details _ => Except NodeError NodeDetails
  | .identity _ => Except NodeError String
  | .delete _ => DeleteResult
  | .prepare _ => Unit
  | .spawn _ => Except String Unit
  | .resolve _ _ => Option SocketAddr
  | .bind _ => BindOutcome
  | .bindAny _ => Except String Nat
  | .remember _ => Bool
  | .drawSuffix => UInt32
  | .makeClient _ => Except ClientFault Unit

inductive Flow (α : Type) : Type
  | done (a : α)
  | ask (r : Request) (next : r.Answer → Flow α)

namespace Flow

variable {α β : Type}

def bind (f : α → Flow β) : Flow α → Flow β
  | done a => f a
  | ask r next => ask r fun answer => (next answer).bind f

instance : Monad Flow where
  pure := done
  bind flow f := flow.bind f

/-- Answers every request in turn. -/
def run {m : Type → Type} [Monad m] (handle : (r : Request) → m r.Answer) : Flow α → m α
  | done a => pure a
  | ask r next => do
    let answer ← handle r
    (next answer).run handle

end Flow

def request (r : Request) : Flow r.Answer := .ask r .done

end NodeWarden
