import NodeWarden.Error

/-! A client on a rehearsed host. It fails as it is told to and notes what it is asked. -/

namespace NodeWarden

inductive ClientNote
  | make (brokers : List String)
  | connect
  | read
  | write (batch : List String)
  /-- Notes how many nodes had been deleted, if that is known. -/
  | close (deletes : Option Nat)
  deriving Repr

structure RehearsedClient where
  makeFault : Option ClientFault := none
  connectFault : Option ClientFault := none
  transferFault : Option ClientFault := none
  closeFault : Option ClientFault := none
  /-- How many batches were read. -/
  reads : Nat := 0
  notes : List ClientNote := []
  deriving Repr

namespace RehearsedClient

def fault? (c : RehearsedClient) : ClientNote → Option ClientFault
  | .make _ => c.makeFault
  | .connect => c.connectFault
  | .read | .write _ => c.transferFault
  | .close _ => c.closeFault

/-- Asks the client for something, and what comes of it. -/
def ask (c : RehearsedClient) (note : ClientNote) : Except ClientFault Unit × RehearsedClient :=
  let c := { c with notes := c.notes ++ [note] }
  match c.fault? note, note with
  | some fault, _ => (.error fault, c)
  | none, .read => (.ok (), { c with reads := c.reads + 1 })
  | none, _ => (.ok (), c)

end RehearsedClient

end NodeWarden
