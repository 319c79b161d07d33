import NodeWarden.Spec.Basic
import NodeWarden.Text.Blank
import NodeWarden.Text.Numeral

/-! Which specs can be rendered. The checks run in a fixed order and the first that fails
is reported. -/

namespace NodeWarden

/-- The fields that are checked, by their keys in the rendered document. -/
inductive SpecField
  | inletFrom
  | inletTo
  | bootstrapServer
  | listenerAddress
  | identity
  | ticket
  deriving DecidableEq, Repr

def SpecField.key : SpecField → String
  | .inletFrom => "kafka-inlet.from"
  | .inletTo => "kafka-inlet.to"
  | .bootstrapServer => "kafka-outlet.bootstrap-server"
  | .listenerAddress => "tcp-listener-address"
  | .identity => "identity"
  | .ticket => "ticket"

inductive SpecFault
  | empty
  | emptyWhenSet
  | notHostPort (value : String)
  | noHost (value : String)
  | invalidPort (value : String)
  deriving DecidableEq, Repr

def SpecFault.message : SpecFault → String
  | .empty => "cannot be empty"
  | .emptyWhenSet => "cannot be empty when set"
  | .notHostPort v => "'" ++ v ++ "' is not in host:port form"
  | .noHost v => "'" ++ v ++ "' has no host"
  | .invalidPort v => "'" ++ v ++ "' has an invalid port"

structure SpecError where
  field : SpecField
  fault : SpecFault
  deriving DecidableEq, Repr

/-- What stands before and after the last `mark`. -/
def splitLast (mark : Char) : List Char → Option (List Char × List Char)
  | [] => none
  | c :: cs =>
    match splitLast mark cs with
    | some (before, after) => some (c :: before, after)
    | none => if c = mark then some ([], cs) else none

def checkHostPort (field : SpecField) (value : String) : Except SpecError Unit :=
  match splitLast ':' value.toList with
  | none => .error ⟨field, .notHostPort value⟩
  | some ([], _) => .error ⟨field, .noHost value⟩
  | some (_, port) =>
    match readPort port with
    | .ok _ => .ok ()
    | .error _ => .error ⟨field, .invalidPort value⟩

def checkFilled (field : SpecField) (fault : SpecFault) (value : String) : Except SpecError Unit :=
  if isBlankText value then .error ⟨field, fault⟩ else .ok ()

def whenSet (check : String → Except SpecError Unit) : Option String → Except SpecError Unit
  | none => .ok ()
  | some value => check value

def NodeSpec.check (spec : NodeSpec) : Except SpecError Unit := do
  checkFilled .inletFrom .empty spec.inlet.source
  checkHostPort .inletFrom spec.inlet.source
  checkFilled .inletTo .empty spec.inlet.route
  checkFilled .bootstrapServer .empty spec.outlet.bootstrapServer
  whenSet (checkHostPort .listenerAddress) spec.listenerAddress
  whenSet (checkFilled .identity .emptyWhenSet) spec.identity
  whenSet (checkFilled .ticket .emptyWhenSet) spec.ticket

theorem splitLast_eq_none_iff {mark : Char} {cs : List Char} :
    splitLast mark cs = none ↔ mark ∉ cs := by
  induction cs with
  | nil => simp [splitLast]
  | cons c cs ih =>
    rw [splitLast, List.mem_cons, not_or]
    cases hs : splitLast mark cs with
    | some p => simp [hs] at ih; simp [ih]
    | none =>
      simp only [hs, true_iff] at ih
      by_cases hc : c = mark
      · simp [hc]
      · simp [hc, ih, Ne.symm hc]

theorem splitLast_eq_some {mark : Char} {cs before after : List Char}
    (h : splitLast mark cs = some (before, after)) :
    cs = before ++ mark :: after ∧ mark ∉ after := by
  induction cs generalizing before with
  | nil => cases h
  | cons c cs ih =>
    rw [splitLast] at h
    split at h
    · rename_i b a hs
      cases h
      obtain ⟨rfl, hm⟩ := ih hs
      exact ⟨rfl, hm⟩
    · rename_i hs
      split at h
      · rename_i hc
        cases h
        exact ⟨by rw [hc]; rfl, splitLast_eq_none_iff.1 hs⟩
      · cases h

theorem splitLast_append {mark : Char} {after : List Char} (h : mark ∉ after)
    (before : List Char) : splitLast mark (before ++ mark :: after) = some (before, after) := by
  induction before with
  | nil => simp [splitLast, splitLast_eq_none_iff.2 h]
  | cons b bs ih => simp [splitLast, ih]

end NodeWarden
