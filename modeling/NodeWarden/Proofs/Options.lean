import Mathlib.Data.List.Basic
import NodeWarden.Console.Run

/-! The options of the console and the variables. An option that is not given takes its value from
a variable, and the variables are read for themselves besides. What comes of both is what the
options say, and what the daemon is told where they say nothing, if the variable for the binary is
not blank. A variable that cannot be read fails the console as it fails the daemon, whatever the
options say. -/

namespace NodeWarden

variable {α : Type} {lookup : String → Option String} {args : List String} {flags i : Invocation}
  {s s' : Surroundings} {base base' : Settings}

/-- A variable counts where neither level gives the option. -/
theorem sharedValue_env {read : String → Option α} {outer inner : Option String}
    (env : Option String) {given : Option α} (h : sharedValue read outer inner none = some given)
    (henv : ∀ value, env = some value → (read value).isSome) :
    sharedValue read outer inner env = some (given.or (env.bind read)) := by
  unfold sharedValue at h ⊢
  cases env with
  | none => simpa using h
  | some value =>
    obtain ⟨a, ha⟩ := Option.isSome_iff_exists.1 (henv value rfl)
    cases outer with
    | none =>
      cases inner with
      | none =>
        cases h
        simp [ha]
      | some i =>
        cases hi : read i with
        | none => simp [hi] at h
        | some b =>
          obtain rfl : some b = given := by simpa [hi] using h
          simp [ha, hi]
    | some o =>
      cases ho : read o with
      | none => simp [ho] at h
      | some b =>
        cases inner with
        | none =>
          obtain rfl : some b = given := by simpa [ho] using h
          simp [ha, ho]
        | some i =>
          cases hi : read i with
          | none => simp [ho, hi] at h
          | some c =>
            obtain rfl : some c = given := by simpa [ho, hi] using h
            simp [ho, hi]

/-- What a command line says under variables is what it says without, and for the options that
are not given what the variables say. -/
def Invocation.withVariables (flags : Invocation) (lookup : String → Option String) : Invocation :=
  { flags with
    binary := flags.binary.or (lookup "SEALINK_NODE_BINARY")
    layout := flags.layout.or (lookup "SEALINK_CONFIG_LAYOUT") }

theorem readPath_isSome {value : String} (h : value ≠ "") : (readPath value).isSome := by
  rw [readPath, if_neg (by simpa using h)]
  rfl

theorem bind_readPath {value : Option String} (h : value ≠ some "") :
    value.bind readPath = value := by
  cases value with
  | none => rfl
  | some path =>
    rw [Option.bind_some, readPath, if_neg]
    simpa using h

theorem parse?_withVariables
    (h : CommandLine.parse? (fun _ => none) args = some (.invocation flags))
    (hbinary : lookup "SEALINK_NODE_BINARY" ≠ some "") :
    CommandLine.parse? lookup args = some (.invocation (flags.withVariables lookup)) := by
  unfold CommandLine.parse? at h ⊢
  obtain ⟨⟨outer, rest⟩, houter, h⟩ := Option.bind_eq_some_iff.1 h
  rw [houter, Option.bind_eq_bind, Option.bind_some]
  cases rest with
  | nil => cases h
  | cons word more =>
    simp only at h ⊢
    by_cases hversion : asksForVersion word = true
    · -- whoever asks for the version means no command
      rw [if_pos hversion] at h
      obtain ⟨_, -, h⟩ := Option.bind_eq_some_iff.1 h
      obtain ⟨_, -, h⟩ := Option.bind_eq_some_iff.1 h
      cases h
    · -- all but the last two values is read without the variables
      rw [if_neg hversion] at h ⊢
      obtain ⟨shape, hshape, h⟩ := Option.bind_eq_some_iff.1 h
      obtain ⟨⟨inner, _⟩, hinner, h⟩ := Option.bind_eq_some_iff.1 h
      obtain ⟨command, hcommand, h⟩ := Option.bind_eq_some_iff.1 h
      obtain ⟨format, hformat, h⟩ := Option.bind_eq_some_iff.1 h
      obtain ⟨binary, hb, h⟩ := Option.bind_eq_some_iff.1 h
      obtain ⟨layout, hl, h⟩ := Option.bind_eq_some_iff.1 h
      cases h
      have hpath : ∀ value, lookup "SEALINK_NODE_BINARY" = some value → (readPath value).isSome :=
        fun value hvalue => readPath_isSome fun hempty => hbinary (by rw [hvalue, hempty])
      have hb' := sharedValue_env _ hb hpath
      have hl' := sharedValue_env (lookup "SEALINK_CONFIG_LAYOUT") hl fun _ _ => rfl
      rw [bind_readPath hbinary] at hb'
      rw [Option.bind_fun_some] at hl'
      simp [hshape, hinner, hcommand, hformat, hb', hl', Invocation.withVariables]

namespace Invocation

/-- The binary that an option names, or else the one of the settings. -/
def binaryOver (i : Invocation) (s : Surroundings) (base : Settings) : String :=
  match i.binary with
  | some binary => resolveBinary s.isFile binary s.searchList
  | none => base.binary

def layoutOver (i : Invocation) (base : Settings) : Except ConsoleError Layout :=
  match i.layout with
  | some word => (Layout.parse word).mapError .config
  | none => .ok base.layout

/-- The settings with what the options say in their place. -/
def settingsOver (i : Invocation) (s : Surroundings) (base : Settings) :
    Except ConsoleError Settings :=
  (i.layoutOver base).map fun layout => { base with binary := i.binaryOver s base, layout }

theorem settings_eq_settingsOver :
    i.settings s = (s.settings.mapError .settings).bind (i.settingsOver s) := by
  unfold settings settingsOver layoutOver binaryOver
  simp only [bind, Except.bind, Except.map, Except.mapError, pure, Except.pure, throw, throwThe,
    MonadExceptOf.throw, Settings.withResolvedBinary]
  cases s.settings with
  | error e => rfl
  | ok base =>
    cases i.layout with
    | none => cases i.binary <;> rfl
    | some word => cases hword : Layout.parse word <;> cases i.binary <;> simp only [hword]

theorem binaryOver_withVariables (hbase : s.settings = .ok base)
    (hblank : flags.binary = none → ∀ binary, s.lookup "SEALINK_NODE_BINARY" = some binary →
      isBlankText binary = false) :
    (flags.withVariables s.lookup).binaryOver s base = flags.binaryOver s base := by
  obtain ⟨layout, grace, -, -, rfl⟩ := Settings.ofVariables_eq_ok_iff.1 hbase
  unfold binaryOver withVariables
  cases hflag : flags.binary with
  | some binary => rfl
  | none =>
    cases hvalue : s.lookup "SEALINK_NODE_BINARY" with
    | none => rfl
    | some binary =>
      -- the settings have been told the same binary, which is not blank
      have hnot := hblank hflag binary hvalue
      simp [hnot, Option.filter, Surroundings.searchList]

theorem layoutOver_withVariables (hbase : s.settings = .ok base) :
    (flags.withVariables s.lookup).layoutOver base = flags.layoutOver base := by
  obtain ⟨layout, grace, hlayout, -, rfl⟩ := Settings.ofVariables_eq_ok_iff.1 hbase
  unfold layoutOver withVariables
  cases flags.layout with
  | some word => rfl
  | none =>
    cases hvalue : s.lookup "SEALINK_CONFIG_LAYOUT" with
    | none => rfl
    | some word =>
      rw [hvalue, Settings.readLayout] at hlayout
      cases hword : Layout.parse word with
      | error e => simp [hword, Except.mapError] at hlayout
      | ok read =>
        rw [hword] at hlayout
        cases hlayout
        simp [hword, Except.mapError]

/-- Variables that stand in for options say what the settings have been told already. -/
theorem settingsOver_withVariables (hbase : s.settings = .ok base)
    (hblank : flags.binary = none → ∀ binary, s.lookup "SEALINK_NODE_BINARY" = some binary →
      isBlankText binary = false) :
    (flags.withVariables s.lookup).settingsOver s base = flags.settingsOver s base := by
  rw [settingsOver, binaryOver_withVariables hbase hblank, layoutOver_withVariables hbase,
    settingsOver]

/-- Surroundings that differ at most in the variables for which the options are given. -/
structure Outranks (flags : Invocation) (s s' : Surroundings) : Prop where
  files : s'.isFile = s.isFile
  binary : flags.binary = none →
    s'.lookup "SEALINK_NODE_BINARY" = s.lookup "SEALINK_NODE_BINARY"
  layout : flags.layout = none →
    s'.lookup "SEALINK_CONFIG_LAYOUT" = s.lookup "SEALINK_CONFIG_LAYOUT"
  others : ∀ name, name ≠ "SEALINK_NODE_BINARY" → name ≠ "SEALINK_CONFIG_LAYOUT" →
    s'.lookup name = s.lookup name

theorem binaryOver_outranks (h : flags.Outranks s s') (hbase : s.settings = .ok base)
    (hbase' : s'.settings = .ok base') : flags.binaryOver s' base' = flags.binaryOver s base := by
  obtain ⟨layout, grace, -, -, rfl⟩ := Settings.ofVariables_eq_ok_iff.1 hbase
  obtain ⟨layout', grace', -, -, rfl⟩ := Settings.ofVariables_eq_ok_iff.1 hbase'
  have hpath := h.others "PATH" (by decide) (by decide)
  unfold binaryOver
  cases hflag : flags.binary with
  | some binary => simp only [Surroundings.searchList, h.files, hpath]
  | none => simp only [h.files, hpath, h.binary hflag]

theorem layoutOver_outranks (h : flags.Outranks s s') (hbase : s.settings = .ok base)
    (hbase' : s'.settings = .ok base') : flags.layoutOver base' = flags.layoutOver base := by
  obtain ⟨layout, grace, hlayout, -, rfl⟩ := Settings.ofVariables_eq_ok_iff.1 hbase
  obtain ⟨layout', grace', hlayout', -, rfl⟩ := Settings.ofVariables_eq_ok_iff.1 hbase'
  unfold layoutOver
  cases hflag : flags.layout with
  | some word => rfl
  | none =>
    rw [h.layout hflag, hlayout] at hlayout'
    cases hlayout'
    rfl

/-- What the options outrank is nothing to the outcome. -/
theorem settingsOver_outranks (h : flags.Outranks s s') (hbase : s.settings = .ok base)
    (hbase' : s'.settings = .ok base') :
    flags.settingsOver s' base' = flags.settingsOver s base := by
  rw [settingsOver, settingsOver, binaryOver_outranks h hbase hbase',
    layoutOver_outranks h hbase hbase']
  obtain ⟨layout, grace, -, hgrace, rfl⟩ := Settings.ofVariables_eq_ok_iff.1 hbase
  obtain ⟨layout', grace', -, hgrace', rfl⟩ := Settings.ofVariables_eq_ok_iff.1 hbase'
  rw [h.others "SEALINK_STOP_GRACE_SECS" (by decide) (by decide), hgrace] at hgrace'
  cases hgrace'
  rw [h.others "SEALINK_NODE_LOG_LEVEL" (by decide) (by decide),
    h.others "SEALINK_NODE_PREFIX" (by decide) (by decide)]

end Invocation

/-- The settings that a command line ends up with, if it means a command. -/
def consoleSettings (s : Surroundings) (args : List String) :
    Option (Except ConsoleError Settings) :=
  match CommandLine.parse? s.lookup args with
  | some (.invocation i) => some (i.settings s)
  | _ => none

theorem consoleSettings_eq
    (hflags : CommandLine.parse? (fun _ => none) args = some (.invocation flags))
    (hempty : s.lookup "SEALINK_NODE_BINARY" ≠ some "")
    (hblank : flags.binary = none → ∀ binary, s.lookup "SEALINK_NODE_BINARY" = some binary →
      isBlankText binary = false) :
    consoleSettings s args =
      some ((s.settings.mapError .settings).bind (flags.settingsOver s)) := by
  have hparse := parse?_withVariables hflags hempty
  rw [consoleSettings, hparse]
  simp only [Invocation.settings_eq_settingsOver]
  cases hbase : s.settings with
  | error e => rfl
  | ok base => exact congrArg some (Invocation.settingsOver_withVariables hbase hblank)

/-- A command line ends up with what its options say, and where they say nothing with the settings
that the daemon would have, if the binary that the variables name is not blank, or is blank and not
empty behind an option. Variables that an option outranks may then say whatever can be read. -/
theorem options_before_variables
    (hflags : CommandLine.parse? (fun _ => none) args = some (.invocation flags))
    (hempty : s.lookup "SEALINK_NODE_BINARY" ≠ some "")
    (hblank : flags.binary = none → ∀ binary, s.lookup "SEALINK_NODE_BINARY" = some binary →
      isBlankText binary = false) :
    consoleSettings s args =
        some ((s.settings.mapError .settings).bind (flags.settingsOver s)) ∧
      ∀ s' base base', flags.Outranks s s' → s.settings = .ok base → s'.settings = .ok base' →
        s'.lookup "SEALINK_NODE_BINARY" ≠ some "" →
        consoleSettings s' args = consoleSettings s args := by
  have hown := consoleSettings_eq hflags hempty hblank
  refine ⟨hown, fun s' base base' houtranks hbase hbase' hempty' => ?_⟩
  have hblank' : flags.binary = none → ∀ binary,
      s'.lookup "SEALINK_NODE_BINARY" = some binary → isBlankText binary = false := by
    intro hflag binary hvalue
    rw [houtranks.binary hflag] at hvalue
    exact hblank hflag binary hvalue
  rw [hown, consoleSettings_eq hflags hempty' hblank', hbase, hbase']
  exact congrArg some (Invocation.settingsOver_outranks houtranks hbase hbase')

/-- Two binaries stand along the search list; the variables of the options are as given. -/
def variedSurroundings (binary layout : Option String) : Surroundings where
  lookup name :=
    if name = "SEALINK_NODE_BINARY" then binary
    else if name = "SEALINK_CONFIG_LAYOUT" then layout
    else if name = "PATH" then some "/usr/bin:/opt/bin"
    else none
  isFile path := path == "/opt/bin/ockam" || path == "/opt/bin/dev"
  read _ := .error "no such file"

theorem settings_varied_blank : (variedSurroundings (some " ") (some "list")).settings =
    .ok { binary := "/opt/bin/ockam", layout := .list } := by
  decide +kernel

/-- The option outranks a variable that is blank, and then one that names another binary. -/
theorem options_before_variables_dev :
    consoleSettings (variedSurroundings (some " ") (some "list")) ["list", "--binary", "dev"] =
        some (.ok { binary := "/opt/bin/dev", layout := .list }) ∧
      consoleSettings (variedSurroundings (some "./other") (some "list"))
          ["list", "--binary", "dev"] =
        some (.ok { binary := "/opt/bin/dev", layout := .list }) := by
  have hflags : CommandLine.parse? (fun _ => none) ["list", "--binary", "dev"] =
      some (.invocation ⟨.table, some "dev", none, .list false⟩) := by decide +kernel
  have houtranks : Invocation.Outranks ⟨.table, some "dev", none, .list false⟩
      (variedSurroundings (some " ") (some "list"))
      (variedSurroundings (some "./other") (some "list")) :=
    ⟨rfl, nofun, fun _ => rfl, fun name hbinary _ => by simp [variedSurroundings, hbinary]⟩
  have hother : (variedSurroundings (some "./other") (some "list")).settings =
      .ok { binary := "./other", layout := .list } := by decide +kernel
  have hover : Invocation.settingsOver ⟨.table, some "dev", none, .list false⟩
      (variedSurroundings (some " ") (some "list"))
      { binary := "/opt/bin/ockam", layout := .list } =
      .ok { binary := "/opt/bin/dev", layout := .list } := by decide +kernel
  have hempty : (variedSurroundings (some " ") (some "list")).lookup "SEALINK_NODE_BINARY" ≠
      some "" := by decide
  obtain ⟨hown, hsame⟩ := options_before_variables hflags hempty nofun
  rw [settings_varied_blank] at hown
  replace hown := hown.trans (congrArg some hover)
  exact ⟨hown, (hsame _ _ _ houtranks settings_varied_blank hother (by decide)).trans hown⟩

/-- A layout that the option outranks fails the command line all the same, and a blank binary is
none to the daemon and one of that name to the console. -/
theorem options_undone :
    consoleSettings (variedSurroundings none none) ["list", "--layout", "list"] =
        some (.ok { binary := "/opt/bin/ockam", layout := .list }) ∧
      consoleSettings (variedSurroundings none (some "yaml")) ["list", "--layout", "list"] =
        some (.error (.settings (.layout "yaml" (.unknownLayout "yaml")))) ∧
      (variedSurroundings (some " ") none).settings = .ok { binary := "/opt/bin/ockam" } ∧
      consoleSettings (variedSurroundings (some " ") none) ["list"] =
        some (.ok { binary := " " }) := by
  refine ⟨?_, ?_, ?_, ?_⟩ <;> decide +kernel

end NodeWarden
