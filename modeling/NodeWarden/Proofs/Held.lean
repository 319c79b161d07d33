import NodeWarden.Held
import NodeWarden.Proofs.Exit

/-! A node in the hands of its holder, who means to delete it. The delete is under way until the
holder has its answer: it stops the node, then calls for the delete, and is told at once or waits
for an external delete of its own. -/

namespace NodeWarden

/-- Whoever waits for a delete and does not give up waits on, or is answered. -/
theorem Life.owner_in_flight {l l' : Life} {e : LifeEvent} {effects : List LifeEffect}
    (h : Change l e effects l') (hstay : e ≠ .abandonDelete 0)
    (hin : .owner 0 ∈ l.teardown.inFlight) :
    .owner 0 ∈ l'.teardown.inFlight ∨ (effects.findSome? LifeEffect.ownAnswer?).isSome := by
  cases h with
  | markRunning =>
    left
    dsimp only
    rwa [Teardown.inFlight_markRunning]
  | claimDelete _ | claim _ _ => exact .inl (List.mem_cons_of_mem _ hin)
  | @answerOwner id r _ =>
    by_cases hid : id = 0
    · subst hid
      exact .inr rfl
    · exact .inl ((List.mem_erase_of_ne (by simpa using Ne.symm hid)).2 hin)
  | answerMonitor _ _ | answerEarly _ _ => exact .inl ((List.mem_erase_of_ne (by simp)).2 hin)
  | @abandonDelete id _ =>
    have hid : id ≠ 0 := fun hid => hstay (by rw [hid])
    exact .inl ((List.mem_erase_of_ne (by simpa using Ne.symm hid)).2 hin)
  | _ => exact .inl hin

namespace HeldNode

variable {n n' : HeldNode} {e : LifeEvent} {effects : List LifeEffect}

/-- A node as a bridge is given it: its program was just started, or it was found running. -/
inductive Fresh : HeldNode → Prop
  | started (name : NodeName) (stopGrace : Nat) : Fresh (.owned { name, stopGrace })
  | found (name : NodeName) : Fresh (.adopt name)

/-- The external deletes that were ever issued for the node. -/
def issued : HeldNode → Nat
  | .owned l => l.teardown.issued
  | .adopted _ t => t.issued

/-- Whether the node's holder waits for an external delete of its own. -/
def Awaits : HeldNode → Prop
  | .owned l => .owner 0 ∈ l.teardown.inFlight
  | .adopted _ _ => False

/-- A node that was started here, and whose life is sound. -/
def Living : HeldNode → Prop
  | .owned l => l.Sound
  | .adopted _ _ => False

/-- Whether the handle of the node has not been dropped. -/
def IsHeld : HeldNode → Prop
  | .owned l => l.handleHeld = true
  | .adopted _ _ => True

theorem change_of_owned {l : Life} (h : (owned l).step e = some (n', effects)) :
    ∃ l', n' = .owned l' ∧ Life.Change l e effects l' := by
  rw [step] at h
  obtain ⟨⟨l', effects⟩, hstep, heq⟩ := Option.map_eq_some_iff.1 h
  cases heq
  exact ⟨l', rfl, Life.change_of_step hstep⟩

theorem issued_step (h : n.step e = some (n', effects)) :
    n'.issued = n.issued + (effects.filterMap Life.issuer?).length := by
  cases n with
  | owned l =>
    obtain ⟨l', rfl, hchange⟩ := change_of_owned h
    exact Life.issued_change hchange
  | adopted name t => cases e <;> cases h <;> rfl

theorem living_step (hl : n.Living) (h : n.step e = some (n', effects)) : n'.Living := by
  cases n with
  | owned l =>
    obtain ⟨l', rfl, hchange⟩ := change_of_owned h
    exact Life.sound_change hl hchange
  | adopted _ _ => exact hl.elim

theorem issued_le (hl : n.Living) : n.issued ≤ 1 := by
  cases n with
  | owned l =>
    rw [issued, (Life.Sound.teardown hl).issued]
    split <;> omega
  | adopted _ _ => exact hl.elim

theorem issued_of_isTornDown (hl : n.Living) (hdown : n.view.state.isTornDown = true) :
    n.issued = 1 := by
  cases n with
  | owned l => exact Life.issued_of_isTornDown hl hdown
  | adopted _ _ => exact hl.elim

theorem isHeld_step (hheld : n.IsHeld) (hdrop : e ≠ .dropHandle)
    (h : n.step e = some (n', effects)) : n'.IsHeld := by
  cases n with
  | owned l =>
    obtain ⟨l', rfl, hchange⟩ := change_of_owned h
    cases hchange with
    | dropHandle _ => exact absurd rfl hdrop
    | _ => exact hheld
  | adopted name t => cases e <;> cases h <;> trivial

theorem awaits_step (hawaits : n.Awaits) (hstay : e ≠ .abandonDelete 0)
    (h : n.step e = some (n', effects)) :
    n'.Awaits ∨ (effects.findSome? LifeEffect.ownAnswer?).isSome := by
  cases n with
  | owned l =>
    obtain ⟨l', rfl, hchange⟩ := change_of_owned h
    exact Life.owner_in_flight hchange hstay hawaits
  | adopted _ _ => exact hawaits.elim

/-- The holder's own delete is issued, or answered at once. -/
theorem awaits_callDelete (h : n.step (.callDelete 0) = some (n', effects)) :
    n'.Awaits ∨ (effects.findSome? LifeEffect.ownAnswer?).isSome := by
  cases n with
  | owned l =>
    obtain ⟨l', rfl, hchange⟩ := change_of_owned h
    cases hchange with
    | claimDelete _ => exact .inl List.mem_cons_self
    | skipDelete _ => exact .inr rfl
  | adopted _ _ =>
    cases h
    exact .inr rfl

/-- Whoever's delete is called for, a node that was started here is gone or going after that. -/
theorem isTornDown_callDelete {id : Nat} (hl : n.Living)
    (h : n.step (.callDelete id) = some (n', effects)) : n'.view.state.isTornDown = true := by
  cases n with
  | owned l =>
    obtain ⟨l', rfl, hchange⟩ := change_of_owned h
    cases hchange with
    | claimDelete _ => rfl
    | skipDelete hdown => exact hdown
  | adopted _ _ => exact hl.elim

theorem step_askStop (hheld : n.IsHeld) : ∃ n', n.step .askStop = some (n', []) := by
  cases n with
  | owned l =>
    have hhandle : l.handleHeld = true := hheld
    exact ⟨.owned { l with stopAsked := true }, by simp [step, Life.step, hhandle]⟩
  | adopted name t => exact ⟨_, rfl⟩

theorem step_callDelete (n : HeldNode) :
    ∃ n' effects, n.step (.callDelete 0) = some (n', effects) := by
  cases n with
  | owned l => exact ⟨_, _, rfl⟩
  | adopted name t => exact ⟨_, _, rfl⟩

theorem step_answerDelete (hawaits : n.Awaits) (r : DeleteResult) :
    ∃ n', n.step (.answerDelete (.owner 0) r) = some (n', [.reply (.owner 0) r]) := by
  cases n with
  | owned l =>
    have hin : .owner 0 ∈ l.teardown.inFlight := hawaits
    exact ⟨_, by rw [step, Life.step, Life.answerDelete, if_pos hin]; rfl⟩
  | adopted _ _ => exact hawaits.elim

theorem Fresh.issued_eq (hnode : n.Fresh) : n.issued = 0 := by
  cases hnode <;> rfl

theorem Fresh.living (hnode : n.Fresh) (howned : n.view.owned = true) : n.Living := by
  cases hnode with
  | started name stopGrace => exact Life.sound_start name stopGrace
  | found _ => cases howned

theorem Fresh.isHeld (hnode : n.Fresh) : n.IsHeld := by
  cases hnode <;> trivial

end HeldNode

namespace Held

variable {ν : Type} {step : ν → LifeEvent → Option (ν × List LifeEffect)} {h h' : Held ν}
  {e : LifeEvent} {effects : List LifeEffect}

theorem todo_of_live (hlive : h.live step e = some (h', effects)) : h'.todo = h.todo := by
  obtain ⟨⟨node, effects⟩, -, heq⟩ := Option.map_eq_some_iff.1 hlive
  cases heq
  rfl

theorem answer_of_live (hlive : h.live step e = some (h', effects)) :
    h'.answer = (effects.findSome? LifeEffect.ownAnswer? <|> h.answer) := by
  obtain ⟨⟨node, effects⟩, -, heq⟩ := Option.map_eq_some_iff.1 hlive
  cases heq
  rfl

theorem todo_of_next (hnext : h.next? = some (e, h')) : h.todo = e :: h'.todo := by
  unfold next? at hnext
  split at hnext
  · cases hnext
  · rename_i htodo
    cases hnext
    exact htodo

theorem live_of_step {node : ν} (hstep : step h.node e = some (node, effects)) :
    h.live step e = some ({ h with
      node, answer := effects.findSome? LifeEffect.ownAnswer? <|> h.answer }, effects) := by
  rw [live, hstep]
  rfl

/-- A delete of the node is under way: it is yet to be called for, awaited or answered. -/
inductive Deleting (h : Held HeldNode) : Prop
  | stop : h.todo = [.askStop, .callDelete 0] → Deleting h
  | call : h.todo = [.callDelete 0] → Deleting h
  | waits : h.todo = [] → h.node.Awaits → Deleting h
  | answered : h.todo = [] → h.answer.isSome → Deleting h

section

variable {h h' held : Held HeldNode} {e : LifeEvent} {effects : List LifeEffect}

theorem isSome_of_answer
    (hanswer : h'.answer = (effects.findSome? LifeEffect.ownAnswer? <|> h.answer))
    (hsome : (effects.findSome? LifeEffect.ownAnswer?).isSome ∨ h.answer.isSome) :
    h'.answer.isSome := by
  rw [hanswer]
  cases hown : effects.findSome? LifeEffect.ownAnswer? with
  | some r => rfl
  | none => simpa [hown] using hsome

theorem deleting_live (hd : h.Deleting) (hstay : e ≠ .abandonDelete 0)
    (hlive : h.live HeldNode.step e = some (h', effects)) : h'.Deleting := by
  have htodo := todo_of_live hlive
  have hanswer := answer_of_live hlive
  cases hd with
  | stop h0 => exact .stop (htodo.trans h0)
  | call h0 => exact .call (htodo.trans h0)
  | waits h0 hawaits =>
    rcases HeldNode.awaits_step hawaits hstay (node_of_live hlive) with hawaits | hown
    · exact .waits (htodo.trans h0) hawaits
    · exact .answered (htodo.trans h0) (isSome_of_answer hanswer (.inl hown))
  | answered h0 hsome => exact .answered (htodo.trans h0) (isSome_of_answer hanswer (.inr hsome))

theorem deleting_next (hd : h.Deleting) (hnext : h.next? = some (e, held))
    (hlive : held.live HeldNode.step e = some (h', effects)) : h'.Deleting := by
  have htodo := todo_of_live hlive
  cases hd with
  | stop h0 =>
    rw [next?, h0] at hnext
    cases hnext
    exact .call htodo
  | call h0 =>
    rw [next?, h0] at hnext
    cases hnext
    rcases HeldNode.awaits_callDelete (node_of_live hlive) with hawaits | hown
    · exact .waits htodo hawaits
    · exact .answered htodo (isSome_of_answer (answer_of_live hlive) (.inl hown))
  | waits h0 _ | answered h0 _ =>
    rw [next?, h0] at hnext
    cases hnext

end

end Held

end NodeWarden
