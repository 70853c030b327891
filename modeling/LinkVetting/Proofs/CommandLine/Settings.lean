import LinkVetting.CommandLine.Request
import LinkVetting.Proofs.Text.Encoding
import LinkVetting.Proofs.Text.Runs

/-!
# Settings on the command line

A setting of a check is written as one argument, with its value behind an equals sign if
it has one.  Such an argument never names a command and is never a value or a candidate,
so a row of settings, each with a switch of its own, gives these settings in its order.
-/

namespace LinkVetting.CommandLine

/-- What can be set for a check. -/
inductive Setting where
  | config (path : Files.Path)
  | auditLog (path : Files.Path)
  | logLevel (filter : String)
  | json
  | strict
  deriving DecidableEq, Repr

namespace Setting

def switch : Setting → Switch
  | .config _ => .config
  | .auditLog _ => .auditLog
  | .logLevel _ => .logLevel
  | .json => .json
  | .strict => .strict

def value : Setting → Argument
  | .config path | .auditLog path => path.bytes
  | .logLevel filter => Text.Utf8.encode filter.toList
  | .json | .strict => []

/-- The setting as a reading keeps it. -/
def given (setting : Setting) : Switch × Argument := (setting.switch, setting.value)

/-- The setting as one argument. -/
def argument (setting : Setting) : Argument :=
  Reading.hyphen :: Reading.hyphen :: (Text.Utf8.encode setting.switch.long.toList ++
    if setting.switch.takesValue then Reading.equalsSign :: setting.value else [])

/-- If a setting has a value, it is not empty. -/
def IsComplete (setting : Setting) : Prop :=
  setting.switch.takesValue = true → setting.value ≠ []

instance (setting : Setting) : Decidable setting.IsComplete :=
  inferInstanceAs (Decidable (setting.switch.takesValue = true → setting.value ≠ []))

end Setting

theorem Setting.switch_mem_check (setting : Setting) : setting.switch ∈ Page.check.switches := by
  cases setting <;> simp [Setting.switch, Page.switches]

theorem Page.long?_long {page : Page} {switch : Switch} (known : switch ∈ page.switches) :
    page.long? switch.long = some switch := by
  revert known
  cases page <;> cases switch <;> decide

theorem Switch.encode_long (switch : Switch) :
    Text.Utf8.encode switch.long.toList ≠ [] ∧
      Reading.equalsSign ∉ Text.Utf8.encode switch.long.toList := by
  cases switch <;> decide +kernel

theorem Page.head?_command : ∀ page ∈ Page.commands,
    (Text.Utf8.encode page.command.toList).head? ≠ some Reading.hyphen := by decide +kernel

namespace Reading

/-- The reading with some settings in effect behind the earlier ones. -/
def giving (reading : Reading) (settings : List Setting) : Reading :=
  { reading with given := reading.given ++ settings.map Setting.given }

section

variable {reading : Reading} {setting : Setting} {settings : List Setting}
variable {later : List Argument}

theorem giving_nil : reading.giving [] = reading := by
  rw [giving, List.map_nil, List.append_nil]

theorem giving_cons :
    (reading.giving [setting]).giving settings = reading.giving (setting :: settings) := by
  simp [giving]

theorem switches_giving :
    (reading.giving settings).switches = reading.switches ++ settings.map Setting.switch := by
  simp [giving, switches, Setting.given]

theorem give_setting (complete : setting.IsComplete)
    (unused : setting.switch ∉ reading.switches) :
    reading.give setting.switch setting.value = .ok (reading.giving [setting]) := by
  have notTwice : ¬ reading.switches.contains setting.switch = true := by simpa using unused
  cases setting with
  | config path =>
      have some : ¬ path.bytes.isEmpty = true := by simpa [Setting.value] using complete rfl
      exact (if_neg notTwice).trans (if_neg some)
  | auditLog path =>
      have some : ¬ path.bytes.isEmpty = true := by simpa [Setting.value] using complete rfl
      exact (if_neg notTwice).trans (if_neg some)
  | logLevel filter =>
      have isText : ¬ (Text.Utf8.decode? (Text.Utf8.encode filter.toList)).isNone = true := by
        rw [Text.Utf8.decode?_encode]
        exact Bool.false_ne_true
      exact (if_neg notTwice).trans (if_neg isText)
  | json => exact if_neg notTwice
  | strict => exact if_neg notTwice

theorem readSwitch_setting (quiet : reading.pending = none) (complete : setting.IsComplete)
    (unused : setting.switch ∉ reading.switches) :
    reading.readSwitch setting.switch
        (if setting.switch.takesValue then some setting.value else none) =
      .ok (reading.giving [setting]) := by
  have settled : reading.settle = .ok reading := by rw [settle, quiet]
  have gives := give_setting complete unused
  cases takes : setting.switch.takesValue with
  | true =>
      simp only [readSwitch, takes, settled, bind, Except.bind, if_true, gives]
  | false =>
      have noValue : setting.value = [] := by cases setting <;> first | rfl | cases takes
      rw [noValue] at gives
      simp only [readSwitch, takes, settled, bind, Except.bind, Bool.false_eq_true, if_false, gives]

theorem readLong_setting (quiet : reading.pending = none) (complete : setting.IsComplete)
    (known : setting.switch ∈ reading.page.switches)
    (unused : setting.switch ∉ reading.switches) :
    reading.readLong (Text.Utf8.encode setting.switch.long.toList ++
        if setting.switch.takesValue then equalsSign :: setting.value else []) later =
      .ok (reading.giving [setting]) := by
  have inName : ∀ byte ∈ Text.Utf8.encode setting.switch.long.toList,
      (byte != equalsSign) = true := by
    intro byte member
    rw [bne_iff_ne]
    rintro rfl
    exact setting.switch.encode_long.2 member
  have ends : ∀ byte ∈ (if setting.switch.takesValue then equalsSign :: setting.value
      else []).head?, (byte != equalsSign) = false := by
    intro byte first
    split at first
    · obtain rfl := Option.some.inj first
      exact bne_self_eq_false _
    · cases first
  have gives := readSwitch_setting quiet complete unused
  have found := Page.long?_long known
  rw [readLong, Text.takeWhile_append_of_ends inName ends,
    Text.dropWhile_append_of_ends inName ends, Text.Utf8.decode?_encode]
  simp only [Option.bind_some, String.ofList_toList, found]
  rw [← gives]
  cases setting.switch.takesValue with
  | true => rfl
  | false => rfl

theorem command?_hyphen {rest : List UInt8} : reading.command? (hyphen :: rest) = none := by
  rw [command?]
  split
  · cases named : (Text.Utf8.decode? (hyphen :: rest)).bind fun name =>
        Page.ofCommand? (String.ofList name) with
    | none => rfl
    | some page =>
        obtain ⟨name, decoded, command⟩ := Option.bind_eq_some_iff.mp named
        have spelled := Text.Utf8.encode_of_decode? decoded
        have same : page.command = String.ofList name := by simpa using List.find?_some command
        have letters : name = page.command.toList := by rw [same, String.toList_ofList]
        rw [letters] at spelled
        have begins := congrArg List.head? spelled
        have isCommand : page ∈ Page.commands := List.mem_of_find?_eq_some command
        exact absurd begins (Page.head?_command page isCommand)
  · rfl

theorem readArgument_setting (quiet : reading.pending = none)
    (ahead : reading.isTrailing = false) (complete : setting.IsComplete)
    (known : setting.switch ∈ reading.page.switches)
    (unused : setting.switch ∉ reading.switches) :
    reading.readArgument setting.argument later = .ok (reading.giving [setting]) := by
  have reads := @readLong_setting reading setting later quiet complete known unused
  obtain ⟨first, name, spelled⟩ := List.exists_cons_of_ne_nil setting.switch.encode_long.1
  rw [spelled, List.cons_append] at reads
  rw [Setting.argument, spelled, List.cons_append]
  simp only [readArgument, ahead, Bool.false_eq_true, if_false, decide_true, Bool.and_self, if_true,
    reads]

/-- A row of settings is read one by one; the induction is on the row. -/
theorem readAll_settings (quiet : reading.pending = none) (ahead : reading.isTrailing = false)
    (complete : ∀ setting ∈ settings, setting.IsComplete)
    (known : ∀ setting ∈ settings, setting.switch ∈ reading.page.switches)
    (distinct : (settings.map Setting.switch).Nodup)
    (unused : ∀ setting ∈ settings, setting.switch ∉ reading.switches) :
    reading.readAll (settings.map Setting.argument ++ later) =
      (reading.giving settings).readAll later := by
  induction settings generalizing reading with
  | nil => rw [List.map_nil, List.nil_append, giving_nil]
  | cons setting settings induction =>
      obtain ⟨different, distinctLater⟩ := List.nodup_cons.mp distinct
      obtain ⟨completeFirst, completeLater⟩ := List.forall_mem_cons.mp complete
      obtain ⟨knownFirst, knownLater⟩ := List.forall_mem_cons.mp known
      obtain ⟨unusedFirst, unusedLater⟩ := List.forall_mem_cons.mp unused
      have reads := @readArgument_setting reading setting
        (settings.map Setting.argument ++ later) quiet ahead completeFirst knownFirst unusedFirst
      have unusedStill : ∀ other ∈ settings,
          other.switch ∉ (reading.giving [setting]).switches := by
        intro other member
        rw [switches_giving, List.map_singleton, List.mem_append, List.mem_singleton, not_or]
        refine ⟨unusedLater other member, ?_⟩
        intro same
        exact different (List.mem_map.mpr ⟨other, member, same⟩)
      have noCommand : reading.command? setting.argument = none := command?_hyphen
      have rest := @induction (reading.giving [setting]) quiet ahead completeLater
        knownLater distinctLater unusedStill
      rw [giving_cons] at rest
      rw [List.map_cons, List.cons_append, readAll, noCommand, reads, ← rest]
      rfl

end

end Reading

end LinkVetting.CommandLine
