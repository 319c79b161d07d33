import NodeWarden.Address.Socket
import NodeWarden.Text.Ascii
import NodeWarden.Spec.Basic

/-! What a node says of itself: whether it is up, where it listens, and which of its inlets
leads to the brokers. -/

namespace NodeWarden

structure TransportBinding where
  socketAddress : Option String := none
  mode : Option String := none
  deriving DecidableEq, Repr

structure InletBinding where
  bindAddress : Option String := none
  outletRoute : Option String := none
  deriving DecidableEq, Repr

structure NodeDetails where
  name : Option String := none
  status : Option String := none
  transports : List TransportBinding := []
  inlets : List InletBinding := []
  deriving DecidableEq, Repr

/-- The status words of a node that is up. -/
def runningWords : List String := ["running", "up"]

def statusMeansRunning (status : String) : Bool :=
  runningWords.any fun word => eqIgnoreCase (trim status) word

def TransportBinding.accepts (t : TransportBinding) (address : String) : Bool :=
  !t.mode.any (eqIgnoreCase · "outgoing") && t.socketAddress.any (sameSocket · address)

namespace NodeDetails

def isRunning (d : NodeDetails) : Bool := d.status.any statusMeansRunning

def listensOn (d : NodeDetails) (address : String) : Bool :=
  d.transports.any (·.accepts address)

/-- Address and binding of the first inlet that has an address and whose route contains
the marker. -/
def inletRoutedTo (d : NodeDetails) (marker : String) : Option (String × InletBinding) :=
  d.inlets.findSome? fun inlet =>
    match inlet.bindAddress, inlet.outletRoute with
    | some address, some route =>
      if containsText marker.toList route.toList then some (address, inlet) else none
    | _, _ => none

end NodeDetails

end NodeWarden
