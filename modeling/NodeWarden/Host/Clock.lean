import NodeWarden.Host.Requests

/-! The clock of a rehearsed host. It moves only when somebody waits, and at every instant all
that is due is done before it moves on. -/

namespace NodeWarden

/-- How many steps a wait may take. -/
def waitSteps : Nat := 10000000

namespace Host

def applyEffect (i : Nat) : LifeEffect → HostM Unit
  | .forward r => modify fun h => { h with records := h.records.push r }
  | .kill => changeProgram i (·.kill)
  | .issueDelete caller => modify fun h =>
    let delay := match h.plane with
      | .memory _ _ _ delay => delay
      | .commandLine _ _ => 0
    { h with pending := h.pending ++ [⟨i, caller, h.now + delay⟩] }
  | .reply (.owner id) result => modify fun h => { h with replies := (id, result) :: h.replies }
  | .reply .monitor _ => return ()
  | .report e => modify fun h => { h with reports := h.reports ++ [e] }

/-- Lets a node take a step, if it can. -/
def stepNode (i : Nat) (e : LifeEvent) : HostM Bool := do
  match ← node? i with
  | none => return false
  | some n =>
    match n.life.step e with
    | none => return false
    | some (life, effects) =>
      setNode i { n with life }
      effects.forM (applyEffect i)
      return true

/-- The end of the external delete that is due first. -/
def endDelete (p : PendingDelete) : HostM Bool := do
  match ← node? p.node with
  | none => return false
  | some n =>
    let result ← deleteNode n.life.name
    stepNode p.node (.answerDelete p.caller result)

def endDueDelete : HostM Bool := do
  let h ← get
  match h.pending.find? (·.dueAt ≤ h.now) with
  | none => return false
  | some p =>
    let isIt := fun q : PendingDelete => q.node == p.node && q.caller == p.caller
    set { h with pending := h.pending.filter (!isIt ·) }
    let _ ← endDelete p
    return true

/-- How much is written at once. -/
def pipeChunk : Nat := 4096

/-- One act of a program, which is due. -/
def doAct (i : Nat) (program : Running) : HostM Unit := do
  let now := (← get).now
  match program.acts with
  | [] => changeProgram i (·.endWith (.code 0))
  | act :: rest =>
    changeProgram i ({ · with acts := rest })
    match act with
    | .print s bytes =>
      let _ ← stepNode i (.watch (.arrive s (bytes.take pipeChunk)))
      let left := bytes.drop pipeChunk
      if !left.isEmpty then changeProgram i ({ · with acts := .print s left :: rest })
    | .close s => changeProgram i fun r => { r with closed := s :: r.closed }
    | .sleep nanos byItself =>
      changeProgram i fun r =>
        { r with wakeAt := now + nanos, heldUntil := if byItself then now + nanos else r.heldUntil }
    | .note word => modify fun h =>
      match h.binary with
      | .standIn s => { h with binary := .standIn { s with status := some word } }
      | .canned _ => h
    | .quit status => changeProgram i (·.endWith status)
    | .hang => return ()

def hasUnread (w : Watch) (s : OutputStream) : Bool := (w.source? s).any (!·.unread.isEmpty)

/-- Whether a stream is at its end and not closed yet. -/
def atEnd (h : Host) (n : Hosted) (s : OutputStream) : Bool :=
  (n.life.watch.source? s).isSome && n.program.hasClosed h.now s

def midLine (w : Watch) (s : OutputStream) : Bool := (w.source? s).any (·.line.begun)

/-- What the watch has to do next, if anything; a line that was begun is ended first. -/
def watchEvent? (h : Host) (n : Hosted) : Option WatchEvent :=
  let w := n.life.watch
  let ends := [OutputStream.stdout, .stderr].filter (atEnd h n)
  if n.life.stopPending && !w.stopSeen then some (.noticeStop h.now)
  else if let some s := (ends.find? (midLine w)).or ends.head? then some (.finish s)
  else if w.deadline.any (· ≤ h.now) then some (.deadline h.now)
  else if !w.streamsOpen then n.program.ended.map fun status => .reap (.ok status)
  else none

def monitorEvent? (h : Host) (n : Hosted) : Option LifeEvent :=
  match n.life.stage with
  | .watching => (watchEvent? h n).map .watch
  | .reaped _ => some .judge
  | .judged _ => some .publish
  | .published _ => some .report
  | .reported _ => some .claim
  | .deleting _ | .finished | .lost => none

/-- One thing that is due for a node: output is read before more is written, and the
program goes before its monitor. -/
def turnNode (i : Nat) : HostM Bool := do
  match ← node? i with
  | none => return false
  | some n =>
    let h ← get
    let watch := n.life.watch
    let reads := [OutputStream.stdout, .stderr].filter (hasUnread watch)
    match n.life.stage, reads with
    | .watching, s :: _ => stepNode i (.watch (.read s))
    | _, _ =>
      if n.program.nextAct?.any (· ≤ h.now) then
        doAct i n.program
        return true
      else
        match monitorEvent? h n with
        | some e => stepNode i e
        | none => return false

def turnFirst : List Nat → HostM Bool
  | [] => return false
  | i :: rest => do if ← turnNode i then return true else turnFirst rest

/-- One thing that is due, if anything is. -/
def turn : HostM Bool := do
  if ← endDueDelete then return true
  else turnFirst (List.range (← get).nodes.length)

def nodeTimes (h : Host) (n : Hosted) : List Nat :=
  let deadline := match n.life.stage with
    | .watching => n.life.watch.deadline
    | _ => none
  [n.program.nextAct?, n.program.closesAt? h.now, deadline].filterMap id

/-- The next time at which something is due. -/
def nextTime? (h : Host) : Option Nat :=
  (h.pending.map (·.dueAt) ++ h.nodes.flatMap (nodeTimes h)).min?

/-- One thing that is due, now or as soon as there is any. -/
def advance : HostM Bool := do
  if ← turn then return true
  match (← get).nextTime? with
  | some t =>
    let now := (← get).now
    if now < t then
      modify fun h => { h with now := t }
      return true
    else return false
  | none => return false

def repeatWhile (step : HostM Bool) : Nat → HostM Unit
  | 0 => return ()
  | fuel + 1 => do if ← step then repeatWhile step fuel

/-- Does all that is due now. -/
def settle : HostM Unit := repeatWhile turn waitSteps

/-- Lets time pass until something holds or nothing is left to happen. -/
def waitFor (holds : Host → Bool) : HostM Unit :=
  repeatWhile (do if holds (← get) then return false else advance) waitSteps

def hasReply (id : Nat) (h : Host) : Bool := h.replies.any (·.1 == id)

def newCaller : HostM Nat :=
  modifyGet fun h => (h.callers, { h with callers := h.callers + 1 })

/-- Asks for the stop and the delete of a node, without waiting for it. -/
def beginDelete (i : Nat) : HostM Nat := do
  let id ← newCaller
  let _ ← stepNode i .askStop
  let _ ← stepNode i (.callDelete id)
  return id

/-- What a delete comes to; an external delete that is due comes first. -/
def awaitReply (id : Nat) : HostM DeleteResult := do
  repeatWhile (do if hasReply id (← get) then return false else endDueDelete) waitSteps
  waitFor (hasReply id)
  return ((← get).replies.lookup id).getD (.ok ())

def deleteAndWait (i : Nat) : HostM DeleteResult := do awaitReply (← beginDelete i)

end Host

end NodeWarden
