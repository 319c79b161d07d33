import NodeWarden.Console.Run
import NodeWarden.Proofs.Name
import NodeWarden.Proofs.Opened
import NodeWarden.Proofs.SpecText
import NodeWarden.Proofs.Utf8

/-! The dry run of the console beside the making of a node. One prints the configuration indented
and without a name, the other sends it on one line and named; they are the same configuration
apart from the name, and neither refuses a spec that the other takes. -/

namespace NodeWarden

theorem compactMembers_of_ne_nil {ms : List (String × Doc)} (h : ms ≠ []) :
    ∃ members, (Doc.record ms).compactChars = '\x7b' :: members ∧
      compactMembers ms = ',' :: members := by
  cases ms with
  | nil => exact absurd rfl h
  | cons m ms => exact ⟨_, rfl, rfl⟩

/-- The text of a record, and that of the same record with its name in front of its members. -/
def NameLeads (name plain named : String) : Prop :=
  ∃ members, plain.toList = '\x7b' :: members ∧
    named.toList = '\x7b' :: quoted "name" ++ ':' :: quoted name ++ ',' :: members

namespace NodeConfig

theorem ofText_prettyLine (c : NodeConfig) : ofText (c.pretty ++ "\n") = .ok c :=
  ofText_of_json (Json.ofText?_prettyLine _)

/-- A name comes first, and leaves the other members as they are. -/
theorem nameLeads_withName {c : NodeConfig} (h : c.name = none) (name : String) :
    NameLeads name c.compact (c.withName name).compact := by
  obtain ⟨_, identity, listener, ticket, relay, inlet, outlet⟩ := c
  cases h
  let others := presentMembers [
    ("identity", identity.map .text), ("tcp-listener-address", listener.map .text),
    ("ticket", ticket.map .text), ("relay", relay.map .text),
    ("kafka-inlet", some (inlet.toDoc Inlet.toConfigDoc)),
    ("kafka-outlet", some (outlet.toDoc Outlet.toConfigDoc))]
  -- inlet and outlet are always among them, so the name is never the only member
  have hothers : others ≠ [] := by simp [others, presentMembers]
  obtain ⟨members, hplain, hmembers⟩ := compactMembers_of_ne_nil hothers
  refine ⟨members, String.toList_ofList.trans hplain, String.toList_ofList.trans ?_⟩
  change (Doc.record (("name", .text name) :: others)).compactChars = _
  rw [Doc.compactChars, hmembers]
  rfl

end NodeConfig

/-- A spec in a file is found as it was written. -/
theorem Surroundings.readSpec_written {around : Surroundings} {path : String} {spec : NodeSpec}
    (h : around.read path = .ok (textBytes spec.toDoc.compact)) :
    around.readSpec path = .ok spec := by
  have hspec := NodeSpec.ofJson?_spelled (spells_compactText spec.toDoc)
  rw [NodeSpec.ofJson?_toDoc] at hspec
  rw [readSpec, readText, h]
  simp only [utf8Text?_textBytes, hspec]

/-- The console renders the spec in a file, with no address looked for. -/
def dryRun (around : Surroundings) (layout : Layout) (format : OutputFormat) (path : String) :
    Flow (Except ConsoleError String) :=
  (ConsoleCommand.render path false).output around layout format

variable {around : Surroundings} {layout : Layout} {format : OutputFormat} {path : String}
  {spec : NodeSpec} {talk : List Exchange}

/-- Nothing is asked for a dry run. -/
theorem dryRun_yields (hspec : around.readSpec path = .ok spec)
    {r : Except ConsoleError String} :
    (dryRun around layout format path).Yields talk r ↔ talk = [] ∧ r = renderText layout spec := by
  have hrun : dryRun around layout format path = pure (renderText layout spec) := by
    rw [dryRun, ConsoleCommand.output, Console.renderSpec, loadSpec, hspec]
    rfl
  rw [hrun]
  exact Flow.yields_pure

theorem renderText_eq_ok_iff {printed : String} : renderText layout spec = .ok printed ↔
    spec.check = .ok () ∧ printed = (spec.render layout).pretty ++ "\n" := by
  rw [renderText, NodeSpec.build]
  cases spec.check <;> simp [eq_comm]

theorem renderText_eq_config_iff {e : ConfigError} : renderText layout spec = .error (.config e) ↔
    ∃ fault, spec.check = .error fault ∧ e = .invalid fault := by
  rw [renderText, NodeSpec.build]
  cases spec.check <;> simp [eq_comm]

namespace Supervisor

variable {s : Supervisor} {suffix : UInt32} {n : NodeName}

/-- A spec that is accepted is started under the name that was made. -/
theorem create_yields_checked (hcheck : spec.check = .ok ())
    (hname : NodeName.fromParts s.settings.nameStem suffix = .ok n)
    {r : Except NodeError NewNode} :
    (s.create spec).Yields (⟨.drawSuffix, suffix⟩ :: talk) r ↔
      (s.start ⟨n, ((spec.render s.settings.layout).withName n.text).compact⟩).Yields talk r := by
  have hrender : s.render spec = .ok (spec.render s.settings.layout) :=
    render_eq_ok_iff.2 ⟨hcheck, rfl⟩
  rw [create_yields]
  constructor
  · rintro ⟨_, _, htalk, hmaking⟩
    cases htalk
    cases hmaking with
    | unnamed hunnamed =>
      rw [hname] at hunnamed
      cases hunnamed
    | unrendered _ hunrendered =>
      rw [hrender] at hunrendered
      cases hunrendered
    | started hname' hrender' hstart =>
      rw [hname] at hname'
      rw [hrender] at hrender'
      cases hname'
      cases hrender'
      exact hstart
  · intro hstart
    exact ⟨suffix, talk, rfl, .started hname hrender hstart⟩

/-- A spec that is refused is refused whatever suffix is drawn. -/
theorem create_yields_refused {fault : SpecError} {r : Except NodeError NewNode}
    (hcheck : spec.check = .error fault) (hstem : isNameText s.settings.nameStem.toList = true)
    (h : (s.create spec).Yields talk r) : r = .error (.configBuildFailed (.invalid fault)) := by
  have hrender : s.render spec = .error (.configBuildFailed (.invalid fault)) :=
    render_eq_error_iff.2 ⟨fault, hcheck, rfl⟩
  obtain ⟨suffix, rest, -, hmaking⟩ := create_yields.1 h
  cases hmaking with
  | unnamed hunnamed =>
    obtain ⟨n, hname⟩ := NodeName.exists_fromParts hstem suffix
    rw [hname] at hunnamed
    cases hunnamed
  | unrendered _ hunrendered =>
    rw [hrender] at hunrendered
    cases hunrendered
    rfl
  | started _ hrendered _ =>
    rw [hrender] at hrendered
    cases hrendered

/-- What a dry run prints, with nothing asked for it, is the configuration without a name. Whichever
name is made, a node of that name is then started with a text that is read as the same
configuration under the name, and that is the text of the first with its name in front. Where
stems make names, the making of a node fails over its configuration if and only if the dry run
reports that fault. -/
theorem dryRun_agrees (s : Supervisor) (around : Surroundings) (format : OutputFormat)
    (path : String) (spec : NodeSpec) (hspec : around.readSpec path = .ok spec) :
    (∀ talk printed, (dryRun around s.settings.layout format path).Yields talk (.ok printed) →
      talk = [] ∧
      ∃ document, NodeConfig.ofText printed = .ok document ∧ document.name = none ∧
        ∀ suffix n, NodeName.fromParts s.settings.nameStem suffix = .ok n →
          ∃ sent, NodeConfig.ofText sent = .ok (document.withName n.text) ∧
            NameLeads n.text document.compact sent ∧
            ∀ talk r, (s.create spec).Yields (⟨.drawSuffix, suffix⟩ :: talk) r ↔
              ∃ answer, talk = [⟨.prepare sent, ()⟩, ⟨.spawn n, answer⟩] ∧
                r = (answer.map fun _ => ⟨n, sent⟩).mapError (.spawnFailed n.text s.binary)) ∧
    (isNameText s.settings.nameStem.toList = true →
      ∀ talk r, (s.create spec).Yields talk r → ∀ e,
        r = .error (.configBuildFailed e) ↔
          (dryRun around s.settings.layout format path).Yields [] (.error (.config e))) := by
  refine ⟨fun talk printed hdry => ?_, fun hstem talk r hcreate e => ?_⟩
  · obtain ⟨rfl, hprinted⟩ := (dryRun_yields hspec).1 hdry
    obtain ⟨hcheck, rfl⟩ := renderText_eq_ok_iff.1 hprinted.symm
    refine ⟨rfl, spec.render s.settings.layout, NodeConfig.ofText_prettyLine _, rfl,
      fun suffix n hname => ⟨_, NodeConfig.ofText_of_json (Json.ofText?_compact _),
        NodeConfig.nameLeads_withName rfl n.text, fun talk r => ?_⟩⟩
    exact (create_yields_checked hcheck hname).trans start_yields
  · have hdry : (dryRun around s.settings.layout format path).Yields [] (.error (.config e)) ↔
        ∃ fault, spec.check = .error fault ∧ e = .invalid fault := by
      rw [dryRun_yields hspec, and_iff_right rfl, eq_comm, renderText_eq_config_iff]
    rw [hdry]
    constructor
    · rintro rfl
      exact check_of_create_yields hcreate
    · rintro ⟨fault, hcheck, rfl⟩
      exact create_yields_refused hcheck hstem hcreate

/-- The spec is in every file. -/
def surroundingsOf (spec : NodeSpec) : Surroundings where
  lookup _ := none
  isFile _ := false
  read _ := .ok (textBytes spec.toDoc.compact)

/-- A spec whose server is blank. -/
def refusedSpec : NodeSpec := { NodeConfig.hostileSpec with outlet := ⟨" ", true, none⟩ }

def listSupervisor : Supervisor where
  settings := { layout := .list }
  binary := "ockam"

/-- A spec that is printed and sent, and one that is refused on both sides. -/
theorem dryRun_agrees_hostile :
    (∃ printed document sent n, (dryRun (surroundingsOf NodeConfig.hostileSpec) .list .table
        "spec.json").Yields [] (.ok printed) ∧ NodeConfig.ofText printed = .ok document ∧
      n.text = "bridge-000000ab" ∧ NodeConfig.ofText sent = .ok (document.withName n.text) ∧
      NameLeads n.text document.compact sent ∧
      (listSupervisor.create NodeConfig.hostileSpec).Yields
        [⟨.drawSuffix, (0xab : UInt32)⟩, ⟨.prepare sent, ()⟩, ⟨.spawn n, .ok ()⟩] (.ok ⟨n, sent⟩)) ∧
    ∃ e, (listSupervisor.create refusedSpec).Yields [⟨.drawSuffix, (0xab : UInt32)⟩]
        (.error (.configBuildFailed e)) ∧
      (dryRun (surroundingsOf refusedSpec) .list .table "spec.json").Yields []
        (.error (.config e)) := by
  have hread : ∀ spec, (surroundingsOf spec).readSpec "spec.json" = .ok spec := fun _ =>
    Surroundings.readSpec_written rfl
  constructor
  · have hdry : (dryRun (surroundingsOf NodeConfig.hostileSpec) .list .table "spec.json").Yields []
        (.ok _) := (dryRun_yields (hread _)).2 ⟨rfl, rfl⟩
    obtain ⟨-, document, hdocument, -, hnamed⟩ :=
      (dryRun_agrees listSupervisor _ .table "spec.json" _ (hread _)).1 _ _ hdry
    have hname : NodeName.fromParts listSupervisor.settings.nameStem 0xab = .ok _ := rfl
    obtain ⟨sent, hsent, hleads, hruns⟩ := hnamed _ _ hname
    exact ⟨_, document, sent, _, hdry, hdocument, by decide +kernel, hsent, hleads,
      (hruns _ _).2 ⟨.ok (), rfl, rfl⟩⟩
  · have hrefused : (listSupervisor.create refusedSpec).Yields [⟨.drawSuffix, (0xab : UInt32)⟩]
        (.error _) := .ask (r := .drawSuffix) _ (.done _)
    exact ⟨_, hrefused, ((dryRun_agrees listSupervisor _ .table "spec.json" _ (hread _)).2
      (by decide) _ _ hrefused _).1 rfl⟩

end Supervisor

end NodeWarden
