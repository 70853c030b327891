import LinkVetting.Proofs.CommandLine.Settings

/-!
# Requests on the command line

Every check can be asked for: its settings stand behind the command in any order, those
of the program also before it, and its candidates stand as they are behind two hyphens.
The request that is read is the one that has been written, wherever the settings stand.
-/

namespace LinkVetting.CommandLine

/-- The settings of a check, each of them set or not. -/
structure Choice where
  config : Option Files.Path := none
  auditLog : Option Files.Path := none
  logLevel : Option String := none
  json : Bool := false
  strict : Bool := false
  deriving DecidableEq, Repr

namespace Choice

def settings (choice : Choice) : List Setting :=
  (choice.config.map .config).toList ++ (choice.auditLog.map .auditLog).toList ++
    (choice.logLevel.map .logLevel).toList ++ (if choice.json then [.json] else []) ++
    if choice.strict then [.strict] else []

/-- The value of a switch that is set. -/
def value? (choice : Choice) : Switch → Option Argument
  | .config => choice.config.map Files.Path.bytes
  | .auditLog => choice.auditLog.map Files.Path.bytes
  | .logLevel => choice.logLevel.map fun filter => Text.Utf8.encode filter.toList
  | .json => if choice.json then some [] else none
  | .strict => if choice.strict then some [] else none
  | .help | .version => none

/-- The request for a check of candidates. -/
def request (choice : Choice) (candidates : List String) : Request where
  config := choice.config.getD defaultConfig
  auditLog := choice.auditLog
  logLevel := choice.logLevel
  command := .check candidates choice.json choice.strict

section

variable {choice : Choice} {switch : Switch}

theorem distinct_settings : (choice.settings.map Setting.switch).Nodup := by
  obtain ⟨config, auditLog, logLevel, json, strict⟩ := choice
  cases config <;> cases auditLog <;> cases logLevel <;> cases json <;> cases strict <;>
    simp [settings, Setting.switch]

theorem lookup_settings :
    (choice.settings.map Setting.given).lookup switch = choice.value? switch := by
  obtain ⟨config, auditLog, logLevel, json, strict⟩ := choice
  cases config <;> cases auditLog <;> cases logLevel <;> cases json <;> cases strict <;>
    cases switch <;> rfl

end

end Choice

/-- Candidates as arguments. -/
def operands (candidates : List String) : List Argument :=
  candidates.map fun candidate => Text.Utf8.encode candidate.toList

/-- The arguments of a check behind its command: settings, two hyphens and candidates. -/
def behindCheck (settings : List Setting) (candidates : List String) : List Argument :=
  settings.map Setting.argument ++ [Reading.hyphen, Reading.hyphen] :: operands candidates

/-- The arguments of a check with settings before and behind its command. -/
def checkArguments (front back : List Setting) (candidates : List String) : List Argument :=
  front.map Setting.argument ++ Text.Utf8.encode "check".toList :: behindCheck back candidates

/-! ## Candidates -/

namespace Reading

/-- What waits after some candidates. -/
def waiting : List Argument → Option Pending
  | [] => none
  | value :: values => some (.candidates (value :: values))

section

variable {reading : Reading} {argument : Argument} {later values : List Argument}
variable {candidates : List String}

theorem waiting_concat :
    waiting (values ++ [argument]) = some (.candidates (values ++ [argument])) := by
  cases values with
  | nil => rfl
  | cons value values => rfl

theorem command?_check (page : reading.page = .check) : reading.command? argument = none := by
  rw [command?, page]
  rfl

theorem readArgument_trailing (trailing : reading.isTrailing = true)
    (page : reading.page = .check) (earlier : reading.pending = waiting values) :
    reading.readArgument argument later =
      .ok { reading with pending := waiting (values ++ [argument]) } := by
  have operand : reading.readArgument argument later = reading.readOperand argument := by
    unfold readArgument
    exact if_pos trailing
  rw [operand, waiting_concat]
  obtain ⟨_, given, taken, _, _⟩ := reading
  cases page
  cases earlier
  cases values with
  | nil => rfl
  | cons value values => rfl

/-- The induction is on the arguments; `values` are the candidates before them. -/
theorem readAll_trailing (trailing : reading.isTrailing = true) (page : reading.page = .check)
    (earlier : reading.pending = waiting values) :
    reading.readAll later =
      .ok ({ reading with pending := waiting (values ++ later) }, none) := by
  induction later generalizing reading values with
  | nil =>
      rw [List.append_nil, ← earlier]
      rfl
  | cons argument later induction =>
      have reads := @readArgument_trailing reading argument later values trailing page earlier
      have rest := @induction { reading with pending := waiting (values ++ [argument]) }
        (values ++ [argument]) trailing page rfl
      rw [List.append_assoc, List.singleton_append] at rest
      rw [readAll, command?_check page, reads, ← rest]
      rfl

theorem settle_waiting (earlier : reading.pending = waiting (operands candidates)) :
    reading.settle = .ok { reading with
      pending := none, candidates := reading.candidates ++ candidates } := by
  have decoded : (operands candidates).mapM Text.Utf8.decode? =
      some (candidates.map String.toList) := by
    rw [operands, List.mapM_map]
    simp only [Function.comp_def, Text.Utf8.decode?_encode]
    exact List.mapM_pure
  obtain ⟨page, given, taken, _, isTrailing⟩ := reading
  cases earlier
  cases candidates with
  | nil => simp [settle, operands]
  | cons candidate candidates =>
      rw [operands, List.map_cons] at decoded
      simp [settle, operands, decoded]

theorem readAll_candidates (page : reading.page = .check) (quiet : reading.pending = none)
    (ahead : reading.isTrailing = false) :
    ∃ last, reading.readAll ([hyphen, hyphen] :: operands candidates) = .ok (last, none) ∧
      last.settle = .ok { reading with
        isTrailing := true, candidates := reading.candidates ++ candidates } := by
  obtain ⟨_, given, taken, _, _⟩ := reading
  cases page
  cases quiet
  cases ahead
  have trailing := @readAll_trailing ⟨.check, given, taken, none, true⟩ (operands candidates) []
    rfl rfl rfl
  exact ⟨_, trailing, settle_waiting rfl⟩

end

/-! ## What has been given -/

section

variable {reading program command : Reading} {front back : List Setting} {choice : Choice}
variable {switch : Switch} {candidates : List String}

theorem shown_encode {text : String} : shown (Text.Utf8.encode text.toList) = text := by
  have decoded : Text.Utf8.decodeLossy (Text.Utf8.encode text.toList) = text.toList := by
    rw [Text.Utf8.decodeLossy, Text.Utf8.pieces_encode, List.map_map]
    exact List.map_id _
  rw [shown, decoded, String.ofList_toList]

theorem contains_switches : reading.switches.contains switch = (reading.value? switch).isSome := by
  rw [switches, value?]
  induction reading.given with
  | nil => rfl
  | cons entry entries induction =>
      obtain ⟨other, value⟩ := entry
      rw [List.map_cons, List.contains_cons, List.lookup_cons, induction]
      cases switch == other with
      | true => rfl
      | false => rfl

theorem lookup_of_perm {entries others : List (Switch × Argument)} {switch : Switch}
    (same : entries.Perm others) (distinct : (entries.map Prod.fst).Nodup) :
    entries.lookup switch = others.lookup switch := by
  induction same with
  | nil => rfl
  | cons entry same induction =>
      obtain ⟨_, distinctRest⟩ := List.nodup_cons.mp distinct
      obtain ⟨other, value⟩ := entry
      rw [List.lookup_cons, List.lookup_cons, induction distinctRest]
  | swap first second rest =>
      obtain ⟨notAmong, _⟩ := List.nodup_cons.mp distinct
      obtain ⟨one, value⟩ := first
      obtain ⟨other, another⟩ := second
      have different : other ≠ one := List.ne_of_not_mem_cons notAmong
      simp only [List.lookup_cons]
      by_cases isOther : switch = other
      · have isNotOne : (switch == one) = false := beq_eq_false_iff_ne.mpr (isOther ▸ different)
        rw [isNotOne]
      · have isNotOther : (switch == other) = false := beq_eq_false_iff_ne.mpr isOther
        rw [isNotOther]
  | trans same _ first second =>
      exact (first distinct).trans (second ((same.map Prod.fst).nodup distinct))

/-- The settings before and after the command are those of the choice. -/
theorem valueIn?_of_perm (all : (front ++ back).Perm choice.settings)
    (before : program.given = front.map Setting.given)
    (behind : command.given = back.map Setting.given) :
    valueIn? program command switch = choice.value? switch := by
  have same : ((back ++ front).map Setting.given).Perm (choice.settings.map Setting.given) :=
    (List.perm_append_comm.trans all).map Setting.given
  have distinct : (((back ++ front).map Setting.given).map Prod.fst).Nodup := by
    rw [(same.map Prod.fst).nodup_iff, List.map_map]
    exact choice.distinct_settings
  calc valueIn? program command switch
      = ((back ++ front).map Setting.given).lookup switch := by
        rw [valueIn?, value?, value?, before, behind, List.map_append, List.lookup_append]
    _ = (choice.settings.map Setting.given).lookup switch := lookup_of_perm same distinct
    _ = choice.value? switch := choice.lookup_settings

theorem contains_of_perm (all : (front ++ back).Perm choice.settings)
    (programs : ∀ setting ∈ front, setting.switch ∈ Page.program.switches)
    (before : program.given = front.map Setting.given)
    (behind : command.given = back.map Setting.given)
    (other : switch ∉ Page.program.switches) :
    command.switches.contains switch = (choice.value? switch).isSome := by
  have notBefore : program.value? switch = none := by
    rw [value?, before, List.lookup_eq_none_iff]
    intro entry member
    obtain ⟨setting, inFront, rfl⟩ := List.mem_map.mp member
    rw [bne_iff_ne]
    rintro rfl
    exact other (programs setting inFront)
  rw [contains_switches, ← valueIn?_of_perm all before behind, valueIn?, notBefore, Option.or_none]

theorem request_of_perm (all : (front ++ back).Perm choice.settings)
    (programs : ∀ setting ∈ front, setting.switch ∈ Page.program.switches)
    (before : program.given = front.map Setting.given)
    (behind : command.given = back.map Setting.given) (page : command.page = .check) :
    request program command = choice.request command.candidates := by
  have values (switch : Switch) :=
    @valueIn?_of_perm program command front back choice switch all before behind
  have json := @contains_of_perm program command front back choice .json all programs before
    behind (by decide)
  have strict := @contains_of_perm program command front back choice .strict all programs before
    behind (by decide)
  simp only [request, values, json, strict, page, if_true, Choice.request, Choice.value?]
  have flag (set : Bool) : (if set = true then some ([] : Argument) else none).isSome = set := by
    cases set with
    | false => rfl
    | true => rfl
  rw [flag, flag]
  simp [Function.comp_def, shown_encode]

end

end Reading

section

variable {choice : Choice} {front back : List Setting} {candidates : List String}

namespace Reading

/-- What has been read before a command. -/
def beforeCommand (settings : List Setting) : Reading := giving { page := .program } settings

/-- What has been read behind the command of a check. -/
def afterCheck (settings : List Setting) (candidates : List String) : Reading :=
  { giving { page := .check } settings with isTrailing := true, candidates }

theorem readAll_checkArguments (complete : ∀ setting ∈ front, setting.IsComplete)
    (programs : ∀ setting ∈ front, setting.switch ∈ Page.program.switches)
    (distinct : (front.map Setting.switch).Nodup) :
    readAll { page := .program } (checkArguments front back candidates) =
      .ok (beforeCommand front, some (.check, behindCheck back candidates)) := by
  have named : (beforeCommand front).command? (Text.Utf8.encode "check".toList) =
      some .check := by
    simp only [command?, beforeCommand, giving, awaitsValue, Text.Utf8.decode?_encode]
    rfl
  rw [checkArguments, readAll_settings rfl rfl complete programs distinct
    (fun _ _ => List.not_mem_nil), ← beforeCommand, readAll, named]

theorem readAll_behindCheck (complete : ∀ setting ∈ back, setting.IsComplete)
    (distinct : (back.map Setting.switch).Nodup) :
    ∃ last, readAll { page := .check } (behindCheck back candidates) = .ok (last, none) ∧
      last.settle = .ok (afterCheck back candidates) := by
  have known : ∀ setting ∈ back, setting.switch ∈ Page.check.switches := fun setting _ =>
    setting.switch_mem_check
  rw [behindCheck, readAll_settings rfl rfl complete known distinct
    (fun _ _ => List.not_mem_nil)]
  exact readAll_candidates rfl rfl rfl

end Reading

/-- Whatever the candidates and the settings of a check are: written with the settings behind the
command in any order, some of those of the program before it, and the candidates behind two
hyphens, they are read as the request for this check. -/
theorem Request.read_checkArguments (all : (front ++ back).Perm choice.settings)
    (complete : ∀ setting ∈ choice.settings, setting.IsComplete)
    (programs : ∀ setting ∈ front, setting.switch ∈ Page.program.switches) :
    Request.read (checkArguments front back candidates) = .ok (choice.request candidates) := by
  have distinct : ((front ++ back).map Setting.switch).Nodup := by
    rw [(all.map Setting.switch).nodup_iff]
    exact choice.distinct_settings
  rw [List.map_append, List.nodup_append] at distinct
  obtain ⟨distinctFront, distinctBack, _⟩ := distinct
  have completeAll : ∀ setting ∈ front ++ back, setting.IsComplete := fun setting member =>
    complete setting (all.mem_iff.mp member)
  obtain ⟨completeFront, completeBack⟩ := List.forall_mem_append.mp completeAll
  have program := @Reading.readAll_checkArguments front back candidates completeFront programs
    distinctFront
  obtain ⟨last, command, settled⟩ := @Reading.readAll_behindCheck back candidates completeBack
    distinctBack
  have asked : Reading.request (.beforeCommand front) (.afterCheck back candidates) =
      choice.request candidates := Reading.request_of_perm all programs rfl rfl rfl
  rw [Request.read, program, ← asked]
  simp only [bind, Except.bind, command, settled]
  rfl

end

/-- Candidates that look like switches or a command, with settings around the command. -/
theorem Request.read_checkArguments_of_switches :
    let choice : Choice :=
      { config := some ⟨[0x2D]⟩, auditLog := some ⟨[0xFF]⟩, logLevel := some "=", json := true }
    let candidates := ["--json", "", "-c", "check", "--"]
    let front := [.logLevel "=", .config ⟨[0x2D]⟩]
    let back := [.json, .auditLog ⟨[0xFF]⟩]
    (front ++ back).Perm choice.settings ∧
      (∀ setting ∈ choice.settings, setting.IsComplete) ∧
      (∀ setting ∈ front, setting.switch ∈ Page.program.switches) ∧
      Request.read (checkArguments front back candidates) = .ok (choice.request candidates) := by
  intro choice candidates front back
  have all : (front ++ back).Perm choice.settings := by decide
  have complete : ∀ setting ∈ choice.settings, setting.IsComplete := by decide +kernel
  have programs : ∀ setting ∈ front, setting.switch ∈ Page.program.switches := by decide
  exact ⟨all, complete, programs, read_checkArguments all complete programs⟩

end LinkVetting.CommandLine
