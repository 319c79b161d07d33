import NodeWarden.Plane.Command

/-! A control plane in memory, which remembers what it was asked to do. -/

namespace NodeWarden

structure MemoryPlane where
  created : List String := []
  deleted : List NodeName := []
  details : List (NodeName × NodeDetails) := []
  listed : List NodeName := []
  failDeletes : Bool := false
  deriving Repr

namespace MemoryPlane

def setDetails (p : MemoryPlane) (name : NodeName) (d : NodeDetails) : MemoryPlane :=
  { p with details := (name, d) :: p.details.filter fun entry => entry.1 != name }

def runningDetails (name : NodeName) (listener inlet : String) : NodeDetails where
  name := some name.text
  status := some "running"
  transports := [⟨some listener, some "listening"⟩]
  inlets := [⟨some inlet, some defaultRoute⟩]

/-- Lists a node that is up, with a listener and an inlet that leads to the brokers. -/
def addRunning (p : MemoryPlane) (name : NodeName) (listener inlet : String) : MemoryPlane :=
  let p := p.setDetails name (runningDetails name listener inlet)
  { p with listed := p.listed ++ [name] }

def prepare (p : MemoryPlane) (config : String) : MemoryPlane :=
  { p with created := p.created ++ [config] }

/-- The text by which a node's own configuration is known. -/
def nameMark (name : NodeName) : List Char := "\"name\":\"".toList ++ name.text.toList ++ ['"']

def isCreated (p : MemoryPlane) (name : NodeName) : Bool :=
  p.created.any fun config => containsText (nameMark name) config.toList

/-- A node that was created here is up until it is deleted. -/
def show? (p : MemoryPlane) (name : NodeName) : Except NodeError NodeDetails :=
  if p.deleted.contains name then .error (.statusQueryFailed name.text "node deleted")
  else
    match p.details.lookup name with
    | some d => .ok d
    | none =>
      if p.isCreated name then .ok { name := some name.text, status := some "running" }
      else .error (.statusQueryFailed name.text "node not found")

/-- What a delete comes to once it takes place. -/
def delete (p : MemoryPlane) (name : NodeName) : MemoryPlane × Except NodeError Unit :=
  let p := { p with deleted := p.deleted ++ [name], listed := p.listed.filter (· != name) }
  (p, if p.failDeletes then
      .error (.deleteFailed name.text "mock control plane configured to fail")
    else .ok ())

def identity (name : String) : String :=
  String.ofList ('I' :: (textBytes name).flatMap fun b => hexPadded 2 b.toNat)

def deleteCount (p : MemoryPlane) (name : NodeName) : Nat := p.deleted.count name

end MemoryPlane

/-- What is asked of the plane. A delete is asked for when it takes place. -/
inductive PlaneCall
  | prepare (config : String)
  | setDetails (name : NodeName) (d : NodeDetails)
  | addRunning (name : NodeName) (listener inlet : String)
  | setFailDeletes (fail : Bool)
  | delete (name : NodeName)
  | details (name : NodeName)
  | list
  | identity (name : String)
  deriving Repr

namespace PlaneCall

def config? : PlaneCall → Option String
  | .prepare config => some config
  | _ => none

/-- The node of which it is settled what the plane says, whether it was created here or not. -/
def settled? : PlaneCall → Option NodeName
  | .setDetails name _ => some name
  | .addRunning name _ _ => some name
  | .delete name => some name
  | _ => none

end PlaneCall

namespace MemoryPlane

/-- What a call leaves behind; questions leave all as it is. -/
def take (p : MemoryPlane) : PlaneCall → MemoryPlane
  | .prepare config => p.prepare config
  | .setDetails name d => p.setDetails name d
  | .addRunning name listener inlet => p.addRunning name listener inlet
  | .setFailDeletes fail => { p with failDeletes := fail }
  | .delete name => (p.delete name).1
  | .details _ => p
  | .list => p
  | .identity _ => p

/-- A new plane after calls in their order. -/
def after (calls : List PlaneCall) : MemoryPlane := calls.foldl take {}

end MemoryPlane

end NodeWarden
