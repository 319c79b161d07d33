import NodeWarden.Plane.Memory
import NodeWarden.Proofs.Config
import NodeWarden.Proofs.Details
import NodeWarden.Proofs.Json.Marks
import NodeWarden.Proofs.Name

/-! Which nodes the control plane in memory takes for running. It looks for a name in the text of
the configurations it was given, where the name is written with escapes but looked for without any.
So a name that needs none is found just if it is the name of a configuration, whatever else stands
in all of them; a name with a quote or a backslash is not found in its own. -/

namespace NodeWarden

variable {n : NodeName} {p : MemoryPlane} {ns : List Char}

/-! ## The name in a configuration -/

def nameWord : List Char := ['n', 'a', 'm', 'e']

theorem isWord_nameWord : IsWord nameWord where
  plain := by simp [nameWord, IsPlain, escapeChar]
  begins := ⟨'n', _, rfl, by decide⟩

theorem nameMark_eq (n : NodeName) :
    MemoryPlane.nameMark n = keyMark nameWord (n.text.toList ++ ['"']) := rfl

theorem Inlet.keys_toConfigDoc (i : Inlet) : ∀ k ∈ i.toConfigDoc.keys, IsOtherKey nameWord k := by
  refine forall_membersKeys_presentMembers ?_ ?_
  · simp [IsOtherKey, nameWord]
  · simp [Predicate.toDoc, Doc.keys]

theorem Outlet.keys_toConfigDoc (o : Outlet) :
    ∀ k ∈ o.toConfigDoc.keys, IsOtherKey nameWord k := by
  refine forall_membersKeys_presentMembers ?_ ?_
  · simp [IsOtherKey, nameWord]
  · simp [Predicate.toDoc, Doc.keys]

theorem Section.keys_toDoc {α : Type} {doc : α → Doc}
    (hdoc : ∀ a, ∀ k ∈ (doc a).keys, IsOtherKey nameWord k) (s : Section α) :
    ∀ k ∈ (s.toDoc doc).keys, IsOtherKey nameWord k := by
  cases s with
  | one a => exact hdoc a
  | list as =>
    rw [toDoc, Doc.keys]
    induction as with
    | nil => simp [itemsKeys]
    | cons a as ih =>
      rw [List.map_cons, itemsKeys]
      exact List.forall_mem_append.2 ⟨hdoc a, ih⟩

namespace NodeConfig

variable {c : NodeConfig}

/-- The name is the first member, if there is one, and no other key is like its. -/
theorem toDoc_eq (c : NodeConfig) : ∃ table,
    c.toDoc = .record (presentMembers (("name", c.name.map .text) :: table)) ∧
      ∀ k ∈ membersKeys (presentMembers table), IsOtherKey nameWord k := by
  refine ⟨_, rfl, forall_membersKeys_presentMembers ?_ ?_⟩
  · simp [IsOtherKey, nameWord]
  · have hinlet := Section.keys_toDoc Inlet.keys_toConfigDoc c.kafkaInlet
    have houtlet := Section.keys_toDoc Outlet.keys_toConfigDoc c.kafkaOutlet
    simpa [Doc.keys] using ⟨hinlet, houtlet⟩

/-- The mark is found at the name only. -/
theorem mark_infix_iff (c : NodeConfig) : ∃ behind, ∀ xs,
    keyMark nameWord xs <:+: c.compact.toList ↔
      ∃ m, c.name = some m ∧ xs <+: m.toList.flatMap escapeChar ++ '"' :: behind := by
  obtain ⟨table, hdoc, hkeys⟩ := c.toDoc_eq
  refine ⟨compactMembers (presentMembers table), fun xs => ?_⟩
  have hchars : c.compact.toList = c.toDoc.compactChars ++ [] := by
    rw [compact, Doc.compact, String.toList_ofList, List.append_nil]
  cases hname : c.name with
  | none =>
    have hdoc' : c.toDoc = .record (presentMembers table) := by
      rw [hdoc, hname]
      rfl
    have hkeys' : ∀ k ∈ c.toDoc.keys, IsOtherKey nameWord k := by rwa [hdoc', Doc.keys]
    rw [hchars, infix_compactChars_iff isWord_nameWord _ hkeys' closes_nil]
    simp only [not_infix_nil, reduceCtorEq, false_and, exists_false]
  | some m =>
    have hdoc' : c.toDoc.compactChars ++ [] = '\x7b' :: (quoted "name" ++
        ':' :: (quoted m ++ (compactMembers (presentMembers table) ++ []))) := by
      rw [hdoc, hname, presentMembers_cons]
      simp [Doc.compactChars]
    rw [hchars, hdoc', infix_cons_iff_of_ne (by decide), infix_key_iff isWord_nameWord (by decide),
      infix_value_iff isWord_nameWord (closes_compactMembers _ []),
      infix_compactMembers_iff isWord_nameWord _ hkeys]
    simp only [not_infix_nil, or_false, Option.some.injEq, exists_eq_left']
    simp [quoted, nameWord]

/-- A name that needs no escape is found just if it is the name. -/
theorem plain_mark_infix_iff (hns : ∀ x ∈ ns, IsPlain x) :
    keyMark nameWord (ns ++ ['"']) <:+: c.compact.toList ↔ c.name = some (String.ofList ns) := by
  obtain ⟨behind, hbehind⟩ := c.mark_infix_iff
  rw [hbehind]
  constructor
  · rintro ⟨m, hname, hprefix⟩
    obtain ⟨rfl, -⟩ := (prefix_escaped_iff hns).1 hprefix
    rw [hname, String.ofList_toList]
  · intro hname
    exact ⟨_, hname, (prefix_escaped_iff hns).2 ⟨String.toList_ofList, List.nil_prefix⟩⟩

theorem ofText_compact (c : NodeConfig) : ofText c.compact = .ok c :=
  ofText_of_json (Json.ofText?_compact c.toDoc)

/-- A name that needs an escape is found under another name, if at all. -/
theorem name_of_escaped_mark (hns : ∃ x ∈ ns, ¬ IsPlain x)
    (hmark : keyMark nameWord (ns ++ ['"']) <:+: c.compact.toList) :
    ∃ m, c.name = some m ∧ m ≠ String.ofList ns := by
  obtain ⟨behind, hbehind⟩ := c.mark_infix_iff
  obtain ⟨m, hname, hprefix⟩ := (hbehind _).1 hmark
  refine ⟨m, hname, ?_⟩
  rintro rfl
  rw [String.toList_ofList] at hprefix
  exact not_prefix_escaped hns hprefix

end NodeConfig

/-! ## The plane -/

namespace MemoryPlane

/-- A name of which the plane was told nothing, and which it was not asked to delete. -/
structure Untold (p : MemoryPlane) (n : NodeName) : Prop where
  kept : n ∉ p.deleted
  unset : p.details.lookup n = none

theorem show?_of_untold (h : p.Untold n) : p.show? n =
    if p.isCreated n then .ok { name := some n.text, status := some "running" }
    else .error (.statusQueryFailed n.text "node not found") := by
  rw [show?, h.unset]
  simp [h.kept]

theorem reportsRunning_of_untold (h : p.Untold n) :
    reportsRunning (p.show? n) = p.isCreated n := by
  have hword : statusMeansRunning "running" = true := by decide
  rw [show?_of_untold h]
  cases p.isCreated n with
  | false => rfl
  | true => exact hword

theorem isCreated_iff :
    p.isCreated n = true ↔ ∃ text ∈ p.created, nameMark n <:+: text.toList := by
  simp only [isCreated, List.any_eq_true, containsText_iff]

theorem lookup_setDetails_of_ne {other : NodeName} (hne : n ≠ other) (d : NodeDetails) :
    (p.setDetails other d).details.lookup n = p.details.lookup n := by
  have hfilter : ∀ entries : List (NodeName × NodeDetails),
      (entries.filter fun entry => entry.1 != other).lookup n = entries.lookup n := by
    intro entries
    induction entries with
    | nil => rfl
    | cons entry entries ih =>
      by_cases hentry : entry.1 = other
      · rw [List.filter_cons_of_neg (by simp [hentry]), ih, List.lookup_cons,
          beq_false_of_ne (hentry ▸ hne)]
      · rw [List.filter_cons_of_pos (by simp [hentry]), List.lookup_cons, List.lookup_cons, ih]
  rw [setDetails, List.lookup_cons, beq_false_of_ne hne]
  exact hfilter p.details

theorem Untold.setDetails {other : NodeName} (h : p.Untold n) (hne : n ≠ other) (d : NodeDetails) :
    (p.setDetails other d).Untold n :=
  ⟨h.kept, (lookup_setDetails_of_ne hne d).trans h.unset⟩

/-- Only a call that is about the node itself settles what is said of it. -/
theorem Untold.take {call : PlaneCall} (h : p.Untold n) (hcall : call.settled? ≠ some n) :
    (p.take call).Untold n := by
  have hother : ∀ {other : NodeName}, call.settled? = some other → n ≠ other := by
    rintro other hsettled rfl
    exact hcall hsettled
  cases call with
  | prepare _ => exact ⟨h.kept, h.unset⟩
  | setDetails _ d => exact h.setDetails (hother rfl) d
  | addRunning other listener inlet =>
    have hset := h.setDetails (hother rfl) (runningDetails other listener inlet)
    exact ⟨hset.kept, hset.unset⟩
  | setFailDeletes _ => exact ⟨h.kept, h.unset⟩
  | delete other =>
    have hne : n ≠ other := hother rfl
    exact ⟨by simpa [MemoryPlane.take, delete, hne] using h.kept, h.unset⟩
  | details _ => exact h
  | list => exact h
  | identity _ => exact h

theorem created_take (p : MemoryPlane) (call : PlaneCall) :
    (p.take call).created = p.created ++ call.config?.toList := by
  cases call <;> simp [take, PlaneCall.config?, prepare, setDetails, addRunning, delete]

variable {calls : List PlaneCall}

theorem untold_foldl (h : p.Untold n) (hcalls : ∀ call ∈ calls, call.settled? ≠ some n) :
    (calls.foldl take p).Untold n := by
  induction calls generalizing p with
  | nil => exact h
  | cons call calls ih =>
    obtain ⟨hcall, hcalls'⟩ := List.forall_mem_cons.1 hcalls
    exact ih (h.take hcall) hcalls'

theorem untold_after (hcalls : ∀ call ∈ calls, call.settled? ≠ some n) :
    (after calls).Untold n :=
  untold_foldl ⟨List.not_mem_nil, rfl⟩ hcalls

theorem created_foldl (p : MemoryPlane) (calls : List PlaneCall) :
    (calls.foldl take p).created = p.created ++ calls.filterMap PlaneCall.config? := by
  induction calls generalizing p with
  | nil => simp
  | cons call calls ih =>
    rw [List.foldl_cons, ih, created_take, List.append_assoc]
    cases hconfig : call.config? <;> simp [hconfig]

/-- What is said of a node that no call was about depends on the configurations alone. -/
theorem running_after_iff (hcalls : ∀ call ∈ calls, call.settled? ≠ some n) :
    reportsRunning ((after calls).show? n) = true ↔
      ∃ text ∈ calls.filterMap PlaneCall.config?, nameMark n <:+: text.toList := by
  rw [reportsRunning_of_untold (untold_after hcalls), isCreated_iff, after, created_foldl,
    List.nil_append]

/-- The characters of a name are no controls, so it is plain without quotes and backslashes. -/
theorem isPlain_of_mem_name (hquote : '"' ∉ n.text.toList) (hslash : '\\' ∉ n.text.toList) :
    ∀ x ∈ n.text.toList, IsPlain x := by
  intro x hx
  refine isPlain_of_ne (fun h => hquote (h ▸ hx)) (fun h => hslash (h ▸ hx)) fun hcontrol => ?_
  have hclear := ((isNameText_iff.1 n.valid).2 x hx).2
  have hlow : x.toNat < 32 := hcontrol
  simp only [isControl, Bool.or_eq_false_iff, decide_eq_false_iff_not] at hclear
  omega

theorem not_isPlain_of_mem_name (h : '"' ∈ n.text.toList ∨ '\\' ∈ n.text.toList) :
    ∃ x ∈ n.text.toList, ¬ IsPlain x := by
  rcases h with hquote | hslash
  · exact ⟨_, hquote, not_isPlain_quote⟩
  · exact ⟨_, hslash, not_isPlain_slash⟩

/-- A node that was not deleted and of which nothing was set is taken for running just if a
configuration has its name, whatever names and texts the configurations are made of, as long as
there is no quote and no backslash in the name. With one of them in it, a node is not found by its
own configuration: if it is taken for running, a configuration of another name was mistaken. -/
theorem running_if_created (n : NodeName) (calls : List PlaneCall)
    (hconfigs : ∀ text ∈ calls.filterMap PlaneCall.config?, ∃ c : NodeConfig, c.compact = text)
    (hcalls : ∀ call ∈ calls, call.settled? ≠ some n) :
    ('"' ∉ n.text.toList → '\\' ∉ n.text.toList →
      (reportsRunning ((after calls).show? n) = true ↔
        ∃ text ∈ calls.filterMap PlaneCall.config?, ∃ c,
          NodeConfig.ofText text = .ok c ∧ c.name = some n.text)) ∧
    ('"' ∈ n.text.toList ∨ '\\' ∈ n.text.toList →
      reportsRunning ((after calls).show? n) = true →
        ∃ text ∈ calls.filterMap PlaneCall.config?, ∃ c m,
          NodeConfig.ofText text = .ok c ∧ c.name = some m ∧ m ≠ n.text) := by
  rw [running_after_iff hcalls]
  constructor
  · intro hquote hslash
    refine exists_congr fun text => and_congr_right fun htext => ?_
    obtain ⟨c, rfl⟩ := hconfigs text htext
    rw [nameMark_eq, NodeConfig.plain_mark_infix_iff (isPlain_of_mem_name hquote hslash),
      String.ofList_toList]
    simp [NodeConfig.ofText_compact]
  · rintro hescaped ⟨text, htext, hmark⟩
    obtain ⟨c, rfl⟩ := hconfigs text htext
    obtain ⟨m, hname, hne⟩ :=
      NodeConfig.name_of_escaped_mark (not_isPlain_of_mem_name hescaped) hmark
    rw [String.ofList_toList] at hne
    exact ⟨_, htext, c, m, c.ofText_compact, hname, hne⟩

/-- A configuration whose other texts look like a name. -/
def decoyConfig (name : String) : NodeConfig where
  name := some name
  ticket := some "\",\"name\":\"decoy\",\""
  kafkaInlet := .list [{ source := "127.0.0.1:5000" }]
  kafkaOutlet := .one { bootstrapServer := "\"name\":\"decoy\"" }

/-- A node is created, and the calls before and after are about another one. -/
def mixedCalls : List PlaneCall :=
  [.addRunning ⟨"other", by decide⟩ "127.0.0.1:4000" "127.0.0.1:5000",
    .prepare (decoyConfig "n-1").compact, .setFailDeletes true, .delete ⟨"other", by decide⟩]

theorem running_if_created_decoy :
    (∀ call ∈ mixedCalls, call.settled? ≠ some ⟨"n-1", by decide⟩) ∧
      (∀ call ∈ mixedCalls, call.settled? ≠ some ⟨"decoy", by decide⟩) ∧
      reportsRunning ((after mixedCalls).show? ⟨"n-1", by decide⟩) = true ∧
      reportsRunning ((after mixedCalls).show? ⟨"decoy", by decide⟩) = false := by
  have hconfigs : ∀ text ∈ mixedCalls.filterMap PlaneCall.config?,
      ∃ c : NodeConfig, c.compact = text := by
    intro text htext
    exact ⟨decoyConfig "n-1", (List.mem_singleton.1 htext).symm⟩
  have hread := (decoyConfig "n-1").ofText_compact
  have hcalls : ∀ call ∈ mixedCalls, call.settled? ≠ some ⟨"n-1", by decide⟩ := by decide
  have hcalls' : ∀ call ∈ mixedCalls, call.settled? ≠ some ⟨"decoy", by decide⟩ := by decide
  obtain ⟨hknown, -⟩ := running_if_created ⟨"n-1", by decide⟩ mixedCalls hconfigs hcalls
  obtain ⟨hunknown, -⟩ := running_if_created ⟨"decoy", by decide⟩ mixedCalls hconfigs hcalls'
  refine ⟨hcalls, hcalls', ?_, ?_⟩
  · exact (hknown (by decide) (by decide)).2 ⟨_, List.mem_singleton_self _, _, hread, rfl⟩
  · refine Bool.eq_false_iff.2 fun hrunning => ?_
    obtain ⟨text, htext, c, hc, hname⟩ := (hunknown (by decide) (by decide)).1 hrunning
    rw [List.mem_singleton.1 htext, hread] at hc
    cases hc
    exact absurd hname (by decide)

/-- A node with a quote in its name is not found, and one that nobody created is. -/
theorem created_unseen : ∃ c : NodeConfig, c.name = some "a\"b" ∧
    NodeConfig.ofText c.compact = .ok c ∧
    (after [.prepare c.compact]).show? ⟨"a\"b", by decide⟩ =
      .error (.statusQueryFailed "a\"b" "node not found") ∧
    reportsRunning ((after [.prepare c.compact]).show? ⟨"a\\", by decide⟩) = true := by
  obtain ⟨behind, hbehind⟩ := (decoyConfig "a\"b").mark_infix_iff
  refine ⟨decoyConfig "a\"b", rfl, NodeConfig.ofText_compact _, ?_, ?_⟩
  · have huntold : (after [.prepare (decoyConfig "a\"b").compact]).Untold
        ⟨"a\"b", by decide⟩ := untold_after (by decide)
    refine (show?_of_untold huntold).trans (if_neg fun hcreated => ?_)
    obtain ⟨text, htext, hmark⟩ := isCreated_iff.1 hcreated
    rw [List.mem_singleton.1 htext, nameMark_eq] at hmark
    obtain ⟨m, hname, hne⟩ :=
      NodeConfig.name_of_escaped_mark ⟨'"', by decide, not_isPlain_quote⟩ hmark
    cases hname
    exact hne rfl
  · rw [running_after_iff (by decide)]
    refine ⟨_, List.mem_singleton_self _, ?_⟩
    rw [nameMark_eq, hbehind]
    -- the slash of the name before the quote, and then the quote that is escaped by it
    exact ⟨_, rfl, 'b' :: '"' :: behind, rfl⟩

end MemoryPlane

end NodeWarden
