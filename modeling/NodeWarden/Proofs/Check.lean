import NodeWarden.Config.Basic
import NodeWarden.Proofs.Numeral

/-! Which specs are accepted. Each field has a condition of its own, an address that it is a host, a
colon and a port, any other text that it is not blank. A spec is accepted if all conditions hold,
and otherwise the first field in the order of the checks whose condition fails is reported, with what
is amiss there. -/

namespace NodeWarden

/-- Something other than blanks is in the text. -/
def Filled (text : String) : Prop := ∃ c ∈ text.toList, isBlank c = false

/-- A host, the last colon, and a numeral that is no more than a port can be. -/
def IsHostPort (text : String) : Prop :=
  ∃ host port n, text.toList = host ++ ':' :: port ∧ ':' ∉ port ∧ host ≠ [] ∧ IsNumeral port n ∧
    n ≤ 65535

/-- What is amiss with a text that is not of that form. -/
inductive AddressFault (text : String) : SpecFault → Prop
  | notHostPort : ':' ∉ text.toList → AddressFault text (.notHostPort text)
  | noHost {port : List Char} : text.toList = ':' :: port → ':' ∉ port →
      AddressFault text (.noHost text)
  | invalidPort {host port : List Char} : text.toList = host ++ ':' :: port → ':' ∉ port →
      host ≠ [] → (∀ n, IsNumeral port n → 65535 < n) → AddressFault text (.invalidPort text)

variable {field : SpecField} {fault : SpecFault} {text : String} {spec : NodeSpec} {e : SpecError}

theorem isBlankText_iff : isBlankText text = true ↔ ¬ Filled text := by
  simp [isBlankText, Filled]

theorem checkFilled_eq_ok_iff : checkFilled field fault text = .ok () ↔ Filled text := by
  rw [checkFilled]
  split
  · rename_i hblank
    simp [isBlankText_iff.1 hblank]
  · rename_i hfilled
    rw [isBlankText_iff, not_not] at hfilled
    simp [hfilled]

theorem checkFilled_eq_error_iff : checkFilled field fault text = .error e ↔
    ∃ found, (¬ Filled text ∧ found = fault) ∧ e = ⟨field, found⟩ := by
  rw [checkFilled]
  split
  · rename_i hblank
    simp [isBlankText_iff.1 hblank, eq_comm]
  · rename_i hfilled
    rw [isBlankText_iff, not_not] at hfilled
    simp [hfilled]

theorem IsHostPort.filled (h : IsHostPort text) : Filled text := by
  obtain ⟨host, port, n, htext, -⟩ := h
  exact ⟨':', by simp [htext], by decide⟩

theorem IsHostPort.check (h : IsHostPort text) : checkHostPort field text = .ok () := by
  obtain ⟨host, port, n, htext, hlast, hhost, hnumeral, hle⟩ := h
  have hport : readPort port = .ok n := readNumeral_eq_ok_iff.2 ⟨hnumeral, hle⟩
  rw [checkHostPort, htext, splitLast_append hlast]
  cases host with
  | nil => exact absurd rfl hhost
  | cons c host => simp [hport]

theorem AddressFault.check (h : AddressFault text fault) :
    checkHostPort field text = .error ⟨field, fault⟩ := by
  rw [checkHostPort]
  cases h with
  | notHostPort hnone => rw [splitLast_eq_none_iff.2 hnone]
  | noHost htext hlast => rw [htext, ← List.nil_append (':' :: _), splitLast_append hlast]
  | @invalidPort host port htext hlast hhost hlarge =>
    rw [htext, splitLast_append hlast]
    cases host with
    | nil => exact absurd rfl hhost
    | cons c host =>
      cases hport : readPort port with
      | error ne => simp [hport]
      | ok n =>
        obtain ⟨hnumeral, hle⟩ := readNumeral_eq_ok_iff.1 hport
        exact absurd (hlarge n hnumeral) (Nat.not_lt.2 hle)

/-- The last colon divides a text, if there is one, and then host and port are looked at. -/
theorem address_cases (text : String) : IsHostPort text ∨ ∃ fault, AddressFault text fault := by
  cases hsplit : splitLast ':' text.toList with
  | none => exact .inr ⟨_, .notHostPort (splitLast_eq_none_iff.1 hsplit)⟩
  | some parts =>
    obtain ⟨host, port⟩ := parts
    obtain ⟨htext, hlast⟩ := splitLast_eq_some hsplit
    by_cases hhost : host = []
    · rw [hhost, List.nil_append] at htext
      exact .inr ⟨_, .noHost htext hlast⟩
    · by_cases hport : ∃ n, IsNumeral port n ∧ n ≤ 65535
      · obtain ⟨n, hnumeral, hle⟩ := hport
        exact .inl ⟨host, port, n, htext, hlast, hhost, hnumeral, hle⟩
      · exact .inr ⟨_, .invalidPort htext hlast hhost fun n hn =>
          Nat.lt_of_not_le fun hle => hport ⟨n, hn, hle⟩⟩

theorem checkHostPort_eq_ok_iff : checkHostPort field text = .ok () ↔ IsHostPort text := by
  refine ⟨fun h => ?_, IsHostPort.check⟩
  obtain haddress | ⟨fault, hfault⟩ := address_cases text
  · exact haddress
  · rw [hfault.check] at h
    cases h

theorem checkHostPort_eq_error_iff : checkHostPort field text = .error e ↔
    ∃ fault, AddressFault text fault ∧ e = ⟨field, fault⟩ := by
  constructor
  · intro h
    obtain haddress | ⟨fault, hfault⟩ := address_cases text
    · rw [haddress.check] at h
      cases h
    · rw [hfault.check] at h
      cases h
      exact ⟨fault, hfault, rfl⟩
  · rintro ⟨fault, hfault, rfl⟩
    exact hfault.check

theorem whenSet_eq_ok_iff {check : String → Except SpecError Unit} {value : Option String} :
    whenSet check value = .ok () ↔ ∀ text ∈ value, check text = .ok () := by
  cases value <;> simp [whenSet]

theorem whenSet_eq_error_iff {check : String → Except SpecError Unit} {value : Option String}
    {amiss : String → SpecFault → Prop}
    (hcheck : ∀ text, check text = .error e ↔ ∃ fault, amiss text fault ∧ e = ⟨field, fault⟩) :
    whenSet check value = .error e ↔
      ∃ fault, (∃ text ∈ value, amiss text fault) ∧ e = ⟨field, fault⟩ := by
  cases value with
  | none => simp [whenSet]
  | some text => simp [whenSet, hcheck]

/-! ## One field after another -/

theorem forM_eq_ok_iff {α ε : Type} {f : α → Except ε Unit} {l : List α} :
    l.forM f = .ok () ↔ ∀ a ∈ l, f a = .ok () := by
  induction l with
  | nil => simp [pure, Except.pure]
  | cons a l ih =>
    change (f a >>= fun _ => l.forM f) = .ok () ↔ _
    rw [List.forall_mem_cons, ← ih]
    cases f a <;> simp [bind, Except.bind]

/-- The first that fails is reported, and what is before it does not fail. -/
theorem forM_eq_error_iff {α ε : Type} {f : α → Except ε Unit} {l : List α} {e : ε} :
    l.forM f = .error e ↔ ∃ before a after, l = before ++ a :: after ∧
      (∀ b ∈ before, f b = .ok ()) ∧ f a = .error e := by
  induction l with
  | nil => simp [pure, Except.pure]
  | cons a l ih =>
    change (f a >>= fun _ => l.forM f) = .error e ↔ _
    cases ha : f a with
    | error e' =>
      constructor
      · intro h
        cases h
        exact ⟨[], a, l, rfl, by simp, ha⟩
      · rintro ⟨before, b, after, hl, hbefore, hb⟩
        cases before with
        | nil =>
          cases hl
          rw [ha] at hb
          cases hb
          rfl
        | cons c before =>
          cases hl
          rw [hbefore _ List.mem_cons_self] at ha
          cases ha
    | ok _ =>
      change l.forM f = .error e ↔ _
      rw [ih]
      constructor
      · rintro ⟨before, b, after, rfl, hbefore, hb⟩
        exact ⟨a :: before, b, after, rfl, List.forall_mem_cons.2 ⟨ha, hbefore⟩, hb⟩
      · rintro ⟨before, b, after, hl, hbefore, hb⟩
        cases before with
        | nil =>
          cases hl
          rw [ha] at hb
          cases hb
        | cons c before =>
          cases hl
          exact ⟨before, b, after, rfl, (List.forall_mem_cons.1 hbefore).2, hb⟩

/-- The fields in the order in which they are checked. -/
def SpecField.inOrder : List SpecField :=
  [.inletFrom, .inletTo, .bootstrapServer, .listenerAddress, .identity, .ticket]

theorem SpecField.mem_inOrder (field : SpecField) : field ∈ inOrder := by
  cases field <;> decide

namespace NodeSpec

/-- What the spec says of the field is as it has to be. -/
def Keeps (spec : NodeSpec) : SpecField → Prop
  | .inletFrom => IsHostPort spec.inlet.source
  | .inletTo => Filled spec.inlet.route
  | .bootstrapServer => Filled spec.outlet.bootstrapServer
  | .listenerAddress => ∀ address ∈ spec.listenerAddress, IsHostPort address
  | .identity => ∀ identity ∈ spec.identity, Filled identity
  | .ticket => ∀ ticket ∈ spec.ticket, Filled ticket

/-- What is amiss with the field. An inlet's address is called empty if it is blank. -/
def Breaks (spec : NodeSpec) : SpecField → SpecFault → Prop
  | .inletFrom, fault => ¬ Filled spec.inlet.source ∧ fault = .empty ∨
      Filled spec.inlet.source ∧ AddressFault spec.inlet.source fault
  | .inletTo, fault => ¬ Filled spec.inlet.route ∧ fault = .empty
  | .bootstrapServer, fault => ¬ Filled spec.outlet.bootstrapServer ∧ fault = .empty
  | .listenerAddress, fault => ∃ address ∈ spec.listenerAddress, AddressFault address fault
  | .identity, fault => ∃ identity ∈ spec.identity, ¬ Filled identity ∧ fault = .emptyWhenSet
  | .ticket, fault => ∃ ticket ∈ spec.ticket, ¬ Filled ticket ∧ fault = .emptyWhenSet

def checkField (spec : NodeSpec) : SpecField → Except SpecError Unit
  | .inletFrom => do
    checkFilled .inletFrom .empty spec.inlet.source
    checkHostPort .inletFrom spec.inlet.source
  | .inletTo => checkFilled .inletTo .empty spec.inlet.route
  | .bootstrapServer => checkFilled .bootstrapServer .empty spec.outlet.bootstrapServer
  | .listenerAddress => whenSet (checkHostPort .listenerAddress) spec.listenerAddress
  | .identity => whenSet (checkFilled .identity .emptyWhenSet) spec.identity
  | .ticket => whenSet (checkFilled .ticket .emptyWhenSet) spec.ticket

theorem check_eq_forM (spec : NodeSpec) : spec.check = SpecField.inOrder.forM spec.checkField := by
  simp [check, SpecField.inOrder, checkField, List.forM_cons, bind_assoc]

theorem bind_eq_ok_iff {first second : Except SpecError Unit} :
    (first >>= fun _ => second) = .ok () ↔ first = .ok () ∧ second = .ok () := by
  cases first <;> simp [bind, Except.bind]

theorem bind_eq_error_iff {first second : Except SpecError Unit} :
    (first >>= fun _ => second) = .error e ↔
      first = .error e ∨ first = .ok () ∧ second = .error e := by
  cases first <;> simp [bind, Except.bind]

theorem checkField_eq_ok_iff : spec.checkField field = .ok () ↔ spec.Keeps field := by
  cases field with
  | inletFrom =>
    rw [checkField, bind_eq_ok_iff, checkFilled_eq_ok_iff, checkHostPort_eq_ok_iff, Keeps]
    exact ⟨And.right, fun h => ⟨h.filled, h⟩⟩
  | inletTo | bootstrapServer => exact checkFilled_eq_ok_iff
  | listenerAddress =>
    exact whenSet_eq_ok_iff.trans (forall₂_congr fun _ _ => checkHostPort_eq_ok_iff)
  | identity | ticket =>
    exact whenSet_eq_ok_iff.trans (forall₂_congr fun _ _ => checkFilled_eq_ok_iff)

/-- The error names the field that was checked. -/
theorem checkField_eq_error_iff :
    spec.checkField field = .error e ↔ ∃ fault, spec.Breaks field fault ∧ e = ⟨field, fault⟩ := by
  cases field with
  | inletFrom =>
    rw [checkField, bind_eq_error_iff, checkFilled_eq_error_iff, checkFilled_eq_ok_iff,
      checkHostPort_eq_error_iff]
    constructor
    · rintro (⟨fault, hblank, rfl⟩ | ⟨hfilled, fault, hfault, rfl⟩)
      · exact ⟨fault, .inl hblank, rfl⟩
      · exact ⟨fault, .inr ⟨hfilled, hfault⟩, rfl⟩
    · rintro ⟨fault, hblank | ⟨hfilled, hfault⟩, rfl⟩
      · exact .inl ⟨fault, hblank, rfl⟩
      · exact .inr ⟨hfilled, fault, hfault, rfl⟩
  | inletTo | bootstrapServer => exact checkFilled_eq_error_iff
  | listenerAddress => exact whenSet_eq_error_iff fun _ => checkHostPort_eq_error_iff
  | identity | ticket => exact whenSet_eq_error_iff fun _ => checkFilled_eq_error_iff

theorem not_keeps_of_breaks (h : spec.Breaks field fault) : ¬ spec.Keeps field := by
  rw [← checkField_eq_ok_iff, checkField_eq_error_iff.2 ⟨fault, h, rfl⟩]
  exact nofun

theorem check_eq_ok_iff : spec.check = .ok () ↔ ∀ field, spec.Keeps field := by
  rw [check_eq_forM, forM_eq_ok_iff]
  exact ⟨fun h field => checkField_eq_ok_iff.1 (h field field.mem_inOrder),
    fun h field _ => checkField_eq_ok_iff.2 (h field)⟩

theorem check_eq_error_iff : spec.check = .error ⟨field, fault⟩ ↔
    spec.Breaks field fault ∧ ∃ before after, SpecField.inOrder = before ++ field :: after ∧
      ∀ earlier ∈ before, spec.Keeps earlier := by
  rw [check_eq_forM, forM_eq_error_iff]
  constructor
  · rintro ⟨before, checked, after, horder, hbefore, herror⟩
    obtain ⟨_, hbreaks, heq⟩ := checkField_eq_error_iff.1 herror
    cases heq
    exact ⟨hbreaks, before, after, horder,
      fun earlier h => checkField_eq_ok_iff.1 (hbefore earlier h)⟩
  · rintro ⟨hbreaks, before, after, horder, hbefore⟩
    exact ⟨before, field, after, horder,
      fun earlier h => checkField_eq_ok_iff.2 (hbefore earlier h), checkField_eq_error_iff.2 ⟨fault, hbreaks, rfl⟩⟩

theorem build_eq_error_iff {layout : Layout} {fault : ConfigError} :
    spec.build layout = .error fault ↔ ∃ e, spec.check = .error e ∧ fault = .invalid e := by
  unfold build
  split <;> rename_i h <;> simp [h, eq_comm]

/-- A spec is accepted, and its configuration rendered, if and only if the inlet's address, and the
listener's if it is set, are a host, the last colon and a port's numeral, the route and the
server are not blank, and neither are identity and ticket where they are set. A spec that is
refused is refused for a field that is not as it has to be, while every field that is checked
before it is, and nothing else comes of the rendering. -/
theorem accepted_iff (spec : NodeSpec) (layout : Layout) :
    (spec.check = .ok () ↔ IsHostPort spec.inlet.source ∧ Filled spec.inlet.route ∧
      Filled spec.outlet.bootstrapServer ∧ (∀ address ∈ spec.listenerAddress, IsHostPort address) ∧
      (∀ identity ∈ spec.identity, Filled identity) ∧ ∀ ticket ∈ spec.ticket, Filled ticket) ∧
    (∀ field fault, spec.check = .error ⟨field, fault⟩ ↔ spec.Breaks field fault ∧
      ¬ spec.Keeps field ∧ ∃ before after, SpecField.inOrder = before ++ field :: after ∧
        ∀ earlier ∈ before, spec.Keeps earlier) ∧
    (∀ config, spec.build layout = .ok config ↔
      spec.check = .ok () ∧ config = spec.render layout) ∧
    ∀ fault, spec.build layout = .error fault ↔ ∃ e, spec.check = .error e ∧ fault = .invalid e := by
  refine ⟨?_, fun field fault => ?_, fun config => build_eq_ok_iff, fun fault => build_eq_error_iff⟩
  · rw [check_eq_ok_iff]
    constructor
    · exact fun h => ⟨h .inletFrom, h .inletTo, h .bootstrapServer, h .listenerAddress, h .identity,
        h .ticket⟩
    · rintro ⟨hfrom, hto, hserver, hlistener, hidentity, hticket⟩ field
      cases field <;> assumption
  · rw [check_eq_error_iff]
    exact and_congr_right fun hbreaks => (and_iff_right (not_keeps_of_breaks hbreaks)).symm

/-- Other colons may stand in the host, a plus sign and zeros in front of the port. -/
example : checkHostPort .listenerAddress "[::1]:+0065535" = .ok () ∧
    checkHostPort .listenerAddress "h:65536" =
      .error ⟨.listenerAddress, .invalidPort "h:65536"⟩ := by
  decide +kernel

end NodeSpec

end NodeWarden
