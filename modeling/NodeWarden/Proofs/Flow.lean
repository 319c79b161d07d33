import Mathlib.Data.List.Basic
import NodeWarden.Flow

/-! What a flow says for a given course of the talk with the world. `Yields flow talk a`: with
the answers of `talk` the flow asks just the requests of `talk` and comes to `a`. Every world
that answers at all leads a flow through one talk to its end. -/

namespace NodeWarden

structure Exchange where
  request : Request
  answer : request.Answer

/-- Requests to the control plane, or to have a program of its run. -/
def Request.asksPlane : Request → Bool
  | .list | .details _ | .identity _ | .delete _ | .prepare _ | .spawn _ => true
  | _ => false

namespace Flow

variable {α β σ : Type} {flow : Flow α} {talk : List Exchange} {a : α} {b : β}

inductive Yields : Flow α → List Exchange → α → Prop
  | done (a : α) : Yields (.done a) [] a
  | ask {r : Request} {next : r.Answer → Flow α} {talk : List Exchange} {a : α} (answer : r.Answer)
      (h : Yields (next answer) talk a) : Yields (.ask r next) (⟨r, answer⟩ :: talk) a

/-- A world that goes from `s` to `t` gives the answers of the talk, one after another. -/
inductive Served (handle : (r : Request) → StateM σ r.Answer) : σ → List Exchange → σ → Prop
  | nil (s : σ) : Served handle s [] s
  | cons {s t : σ} {talk : List Exchange} (r : Request)
      (h : Served handle ((handle r).run s).2 talk t) :
      Served handle s (⟨r, ((handle r).run s).1⟩ :: talk) t

theorem Yields.unique {a' : α} (h : flow.Yields talk a) (h' : flow.Yields talk a') : a = a' := by
  induction h with
  | done c =>
    cases h'
    rfl
  | ask answer _ ih =>
    cases h' with
    | ask _ h' => exact ih h'

/-- A flow takes of the answers what it needs. -/
theorem Yields.unique_of_prefix {part part' : List Exchange} {a' : α} (h : flow.Yields part a)
    (h' : flow.Yields part' a') (hp : part <+: talk) (hp' : part' <+: talk) :
    part = part' ∧ a = a' := by
  induction h generalizing part' talk with
  | done c =>
    cases h'
    exact ⟨rfl, rfl⟩
  | ask answer _ ih =>
    cases h' with
    | ask answer' h' =>
      obtain ⟨rest, rfl⟩ := hp
      rw [List.cons_append, List.cons_prefix_cons] at hp'
      obtain ⟨hsame, hp'⟩ := hp'
      cases hsame
      obtain ⟨rfl, rfl⟩ := ih h' (List.prefix_append _ _) hp'
      exact ⟨rfl, rfl⟩

/-- With the answers of the talk, not all of which it need take, the flow comes to an end, and to
no other end than is said. -/
def Settles (flow : Flow α) (talk : List Exchange) (P : α → Prop) : Prop :=
  (∃ part a, part <+: talk ∧ flow.Yields part a) ∧
    ∀ part a, part <+: talk → flow.Yields part a → P a

theorem Yields.settles {part : List Exchange} {P : α → Prop} (h : flow.Yields part a)
    (hp : part <+: talk) (ha : P a) : flow.Settles talk P := by
  refine ⟨⟨part, a, hp, h⟩, fun part' a' hp' h' => ?_⟩
  obtain ⟨-, rfl⟩ := h.unique_of_prefix h' hp hp'
  exact ha

theorem yields_pure {c : α} : (pure c : Flow α).Yields talk a ↔ talk = [] ∧ a = c := by
  constructor
  · intro h
    cases h
    exact ⟨rfl, rfl⟩
  · rintro ⟨rfl, rfl⟩
    exact .done a

theorem yields_bind {f : α → Flow β} :
    (flow >>= f).Yields talk b ↔
      ∃ first rest a, talk = first ++ rest ∧ flow.Yields first a ∧ (f a).Yields rest b := by
  change (flow.bind f).Yields talk b ↔ _
  induction flow generalizing talk with
  | done c =>
    constructor
    · exact fun h => ⟨[], talk, c, rfl, .done c, h⟩
    · rintro ⟨first, rest, a, rfl, hfirst, hrest⟩
      cases hfirst
      exact hrest
  | ask r next ih =>
    constructor
    · intro h
      cases h with
      | ask answer h =>
        obtain ⟨first, rest, a, rfl, hfirst, hrest⟩ := (ih answer).1 h
        exact ⟨_ :: first, rest, a, rfl, .ask answer hfirst, hrest⟩
    · rintro ⟨first, rest, a, rfl, hfirst, hrest⟩
      cases hfirst with
      | ask answer hfirst => exact .ask answer ((ih answer).2 ⟨_, rest, a, rfl, hfirst, hrest⟩)

theorem yields_request {r : Request} {answer : r.Answer} :
    (request r).Yields talk answer ↔ talk = [⟨r, answer⟩] := by
  constructor
  · intro h
    cases h with
    | ask answer h =>
      cases h
      rfl
  · rintro rfl
    exact .ask answer (.done answer)

theorem yields_request_bind {r : Request} {f : r.Answer → Flow β} :
    (request r >>= f).Yields talk b ↔
      ∃ answer rest, talk = ⟨r, answer⟩ :: rest ∧ (f answer).Yields rest b := by
  rw [yields_bind]
  constructor
  · rintro ⟨first, rest, answer, rfl, hfirst, hrest⟩
    rw [yields_request.1 hfirst]
    exact ⟨answer, rest, rfl, hrest⟩
  · rintro ⟨answer, rest, rfl, hrest⟩
    exact ⟨[_], rest, answer, rfl, yields_request.2 rfl, hrest⟩

/-- Where an error ends a flow, one that comes to a value has come to one in its first part. -/
theorem yields_bind_ok {ε δ : Type} {flow : Flow (Except ε α)} {f : Except ε α → Flow (Except δ β)}
    (h : (flow >>= f).Yields talk (.ok b)) (hf : ∀ e, ∃ d, f (.error e) = pure (.error d)) :
    ∃ first rest a, talk = first ++ rest ∧ flow.Yields first (.ok a) ∧
      (f (.ok a)).Yields rest (.ok b) := by
  obtain ⟨first, rest, r, rfl, hfirst, hrest⟩ := yields_bind.1 h
  cases r with
  | ok a => exact ⟨first, rest, a, rfl, hfirst, hrest⟩
  | error e =>
    obtain ⟨d, hd⟩ := hf e
    rw [hd] at hrest
    cases (yields_pure.1 hrest).2

/-- The flow is a part of the talk, and comes to `a`. -/
def Within (flow : Flow α) (talk : List Exchange) (a : α) : Prop :=
  ∃ before during after, talk = before ++ (during ++ after) ∧ flow.Yields during a

theorem Yields.within (h : flow.Yields talk a) (before after : List Exchange) :
    flow.Within (before ++ (talk ++ after)) a := ⟨before, talk, after, rfl, h⟩

/-- Whatever the answers are, no request of some kind is made. -/
def Avoids (kind : Request → Bool) (flow : Flow α) : Prop :=
  ∀ talk a, flow.Yields talk a → ∀ x ∈ talk, kind x.request = false

/-- Whatever the answers are, nothing is asked of the control plane. -/
def Silent (flow : Flow α) : Prop :=
  ∀ talk a, flow.Yields talk a → ∀ x ∈ talk, x.request.asksPlane = false

variable {kind : Request → Bool}

theorem avoids_pure {c : α} : (pure c : Flow α).Avoids kind := by
  intro talk a h x hx
  rw [(yields_pure.1 h).1] at hx
  cases hx

theorem avoids_request {r : Request} (hr : kind r = false) : (request r).Avoids kind := by
  intro talk answer h x hx
  rw [yields_request.1 h, List.mem_singleton] at hx
  rw [hx]
  exact hr

theorem avoids_bind {f : α → Flow β} (h : flow.Avoids kind) (hf : ∀ a, (f a).Avoids kind) :
    (flow >>= f).Avoids kind := by
  intro talk b hb x hx
  obtain ⟨first, rest, a, rfl, hfirst, hrest⟩ := yields_bind.1 hb
  rcases List.mem_append.1 hx with hx | hx
  · exact h first a hfirst x hx
  · exact hf a rest b hrest x hx

/-- As long as the answers are lawful, the flow comes to nothing but what is said. -/
def Assures (lawful : Exchange → Prop) (flow : Flow α) (P : α → Prop) : Prop :=
  ∀ talk a, flow.Yields talk a → (∀ x ∈ talk, lawful x) → P a

variable {lawful : Exchange → Prop} {P : α → Prop} {Q : β → Prop}

theorem assures_any : flow.Assures lawful fun _ => True := fun _ _ _ _ => trivial

theorem assures_pure {c : α} (h : P c) : (pure c : Flow α).Assures lawful P := by
  intro talk a hyields _
  rw [(yields_pure.1 hyields).2]
  exact h

theorem assures_request {r : Request} {P : r.Answer → Prop}
    (h : ∀ answer, lawful ⟨r, answer⟩ → P answer) : (request r).Assures lawful P := by
  intro talk answer hyields hlawful
  rw [yields_request.1 hyields] at hlawful
  exact h answer (hlawful _ List.mem_cons_self)

theorem assures_bind {f : α → Flow β} (h : flow.Assures lawful P)
    (hf : ∀ a, P a → (f a).Assures lawful Q) : (flow >>= f).Assures lawful Q := by
  intro talk b hyields hlawful
  obtain ⟨first, rest, a, rfl, hfirst, hrest⟩ := yields_bind.1 hyields
  rw [List.forall_mem_append] at hlawful
  exact hf a (h first a hfirst hlawful.1) rest b hrest hlawful.2

/-- A flow comes to an end in every world that answers. -/
theorem yields_run (handle : (r : Request) → StateM σ r.Answer) (flow : Flow α) (s : σ) :
    ∃ talk, flow.Yields talk ((flow.run handle).run s).1 ∧
      Served handle s talk ((flow.run handle).run s).2 := by
  induction flow generalizing s with
  | done c => exact ⟨[], .done c, .nil s⟩
  | ask r next ih =>
    obtain ⟨talk, hyields, hserved⟩ := ih ((handle r).run s).1 ((handle r).run s).2
    exact ⟨_ :: talk, .ask _ hyields, .cons r hserved⟩

end Flow

end NodeWarden
