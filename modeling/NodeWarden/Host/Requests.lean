import NodeWarden.Host.Basic

/-! How a rehearsed host answers what is asked of the world. -/

namespace NodeWarden

def missingProgram : String := FileFault.missing.message

namespace Host

def logCall (command : Command) : HostM Unit :=
  modify fun h =>
    let line := match h.binary with
      | .canned _ => textBytes
        (callLine (fun key => (command.env.lookup key).or (h.valueOf? key)) command.args ++ "\n")
      | .standIn _ => echoBytes (" ".intercalate command.args)
    { h with callLog := h.callLog ++ line }

/-- Why the binary cannot be started by a command. -/
def startFault? (h : Host) (command : Command) : Option String :=
  let fileFault := (h.files.commandFault? h.searchList command.binary).map FileFault.message
  command.textFault?.or (fileFault.or command.sizeFault?)

/-- Runs a short command to its end. -/
def runCommand (command : Command) : HostM (Except String CommandOutput) := do
  let h ← get
  match h.startFault? command with
  | some fault => return .error fault
  | none =>
    logCall command
    match h.binary with
    | .canned answers => return .ok (cannedAnswer answers command.args).output
    | .standIn s =>
      let (s', output) := s.answer command.args
      modify fun h => { h with binary := .standIn s' }
      if command.args[1]? == some "delete" then
        if let some i := s.node then changeProgram i (·.askToStop h.now)
      return .ok output

/-- The answer of a short command of the binary. -/
def askBinary (binary : String) (args : List String) : HostM (Except String (List UInt8)) := do
  let command := shortCommand binary args
  return commandOutput command (← runCommand command)

def memory? (h : Host) : Option MemoryPlane :=
  match h.plane with
  | .memory p _ _ _ => some p
  | .commandLine _ _ => none

def changeMemory (f : MemoryPlane → MemoryPlane) : HostM Unit :=
  modify fun h =>
    match h.plane with
    | .memory p script program delay => { h with plane := .memory (f p) script program delay }
    | .commandLine _ _ => h

def listNodes : HostM (Except NodeError (List NodeName)) := do
  match (← get).plane with
  | .memory p _ _ _ => return .ok p.listed
  | .commandLine binary _ => return readList (← askBinary binary listArgs)

def showNode (name : NodeName) : HostM (Except NodeError NodeDetails) := do
  match (← get).plane with
  | .memory p _ _ _ => return p.show? name
  | .commandLine binary _ => return readDetails name (← askBinary binary (showArgs name))

def identity (name : String) : HostM (Except NodeError String) := do
  match (← get).plane with
  | .memory _ _ _ _ => return .ok (MemoryPlane.identity name)
  | .commandLine binary _ => return readIdentity name (← askBinary binary (identityArgs name))

/-- Deletes a node at once. -/
def deleteNode (name : NodeName) : HostM (Except NodeError Unit) := do
  match (← get).plane with
  | .memory p _ _ _ =>
    let (p, result) := p.delete name
    changeMemory fun _ => p
    return result
  | .commandLine binary _ => return readDeleted name (← askBinary binary (deleteArgs name))

/-- The command that runs a node of this configuration. -/
def nodeCommand (h : Host) (config : String) : Command :=
  match h.plane with
  | .memory _ script program _ =>
    ⟨program.getD "sh", ["-c", script, "mock-node", config], []⟩
  | .commandLine binary level => createCommand binary level config

def prepare (config : String) : HostM Unit := do
  changeMemory (·.prepare config)
  modify fun h => { h with prepared := config }

def addNode (name : NodeName) (program : Running) : HostM Unit :=
  modify fun h =>
    { h with nodes := h.nodes ++ [⟨{ name, stopGrace := h.stopGrace }, program⟩] }

def spawn (name : NodeName) : HostM (Except String Unit) := do
  let h ← get
  let command := h.nodeCommand h.prepared
  match h.plane with
  | .memory _ script program _ =>
    let fault := command.textFault?.or
      (if program.isSome then some missingProgram else command.sizeFault?)
    if let some fault := fault then return .error fault
    addNode name (.start h.now (shellScript script (command.args.drop 2)))
    return .ok ()
  | .commandLine _ _ =>
    match h.startFault? command with
    | some fault => return .error fault
    | none =>
      logCall command
      match h.binary with
      | .canned answers => addNode name (.start h.now (cannedAnswer answers command.args).acts)
      | .standIn s =>
        modify fun h => { h with binary := .standIn { s with node := some h.nodes.length } }
        addNode name (.start h.now s.nodeActs StandIn.stopActs)
      return .ok ()

/-- Suffixes of names follow each other. -/
def drawSuffix : HostM UInt32 := do
  let h ← get
  let suffix := 0x5eed0001 + 0x1003 * h.suffixes.length
  modify fun h => { h with suffixes := h.suffixes ++ [suffix] }
  return .ofNat suffix

def bindAny : HostM (Except String Nat) := do
  match (← get).ports.takeFree with
  | none => return .error "Address already in use (os error 98)"
  | some (port, ports) =>
    modify fun h => { h with ports }
    return .ok port

def remember (port : Nat) : HostM Bool := do
  let (recent, isNew) := (← get).recent.remember port
  modify fun h => { h with recent }
  return isNew

def makeClient (brokers : List String) : HostM (Except ClientFault Unit) := do
  let (answer, client) := (← get).client.ask (.make brokers)
  modify fun h => { h with client }
  return answer

def handle : (r : Request) → HostM r.Answer
  | .list => listNodes
  | .details name => showNode name
  | .identity name => identity name
  | .delete name => deleteNode name
  | .prepare config => prepare config
  | .spawn name => spawn name
  | .resolve host port => return resolveHost host port
  | .bind address => return (← get).ports.bind address
  | .bindAny _ => bindAny
  | .remember port => remember port
  | .drawSuffix => drawSuffix
  | .makeClient brokers => makeClient brokers

def run {α : Type} (flow : Flow α) : HostM α := flow.run handle

end Host

end NodeWarden
