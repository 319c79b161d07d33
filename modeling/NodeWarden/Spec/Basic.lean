/-! What a node is asked to do: who it is, where it listens, and the one inlet and one
outlet it provides. -/

namespace NodeWarden

/-- An access rule, which only the node's own binary understands. -/
structure Predicate where
  expression : String
  deriving DecidableEq, Repr

def escapeIdentifier : List Char → List Char
  | [] => []
  | c :: cs =>
    if c = '"' ∨ c = '\\' then '\\' :: c :: escapeIdentifier cs else c :: escapeIdentifier cs

/-- The rule that admits one identity. -/
def Predicate.identifierEquals (identifier : String) : Predicate :=
  ⟨"(= subject.identifier \"" ++ String.ofList (escapeIdentifier identifier.toList) ++ "\")"⟩

def defaultRoute : String := "/secure/api"

/-- A local address at which clients connect, and the route they are forwarded on. -/
structure Inlet where
  source : String
  route : String := defaultRoute
  avoidPublishing : Bool := false
  consumer : Option String := none
  allowConsumer : Option Predicate := none
  allowProducer : Option Predicate := none
  allow : Option Predicate := none
  deriving DecidableEq, Repr

/-- The broker that the far side of the node talks to. -/
structure Outlet where
  bootstrapServer : String
  tls : Bool := false
  allow : Option Predicate := none
  deriving DecidableEq, Repr

structure NodeSpec where
  identity : Option String := none
  listenerAddress : Option String := none
  ticket : Option String := none
  relay : Option String := none
  inlet : Inlet
  outlet : Outlet
  deriving DecidableEq, Repr

end NodeWarden
