import LinkVetting.Proofs.Audit.TrailFrame
import LinkVetting.Proofs.Program.RecordedChecks

/-!
# What a run leaves alone

A run touches the disk at most at the place of its trail.  A run that gets nowhere near
its trail leaves the disk as it is, and so does one whose trail cannot be opened, at
least where the path is one that a disk can hold.  Where it is too long, or has a name
that is, the directories above the trail may be left behind.
-/

namespace LinkVetting

open Audit (Recorder Writer)
open CommandLine (Request)
open Files (Disk)

/-! ## Runs -/

namespace Surroundings

variable {surroundings : Surroundings}

/-- The settings of a run for its request, if it gets as far as to have them. -/
def settings? (surroundings : Surroundings) : Option Configuration :=
  match Request.read surroundings.arguments with
  | .error _ => none
  | .ok request =>
    match Configuration.load surroundings.disk request.config with
    | .error _ => none
    | .ok loaded => some ((loaded.getD {}).overridden request)

/-- The path of the trail that is asked for by the command line or by the configuration. -/
def trailPath? (surroundings : Surroundings) : Option Files.Path :=
  surroundings.settings?.bind Configuration.auditLog

section

variable {set : RuleSet} {settings : Configuration} {filter : LogFilter}
variable {arguments : List String} {json strict : Bool}

theorem touchesOnly_carryOut
    (ordinary : ∀ path, settings.auditLog = some path → path.IsOrdinary) :
    Disk.TouchesOnly (settings.auditLog.map surroundings.disk.placeOf) surroundings.disk
      (surroundings.carryOut set settings filter (.check arguments json strict)).disk := by
  cases audited : settings.auditLog with
  | none =>
      rw [disk_carryOut_of_no_trail audited]
      exact .refl
  | some path =>
      obtain ⟨only, there⟩ :=
        @Writer.touchesOnly_openOn surroundings.disk path (ordinary path audited)
      cases answer : Writer.openOn surroundings.disk path with
      | mk opened result =>
          rw [answer] at only there
          cases result with
          | error fault => rwa [disk_carryOut_of_error audited answer]
          | ok writer =>
              have touched : Writer.TouchedOnly (surroundings.disk.placeOf path)
                  surroundings.disk (writer, opened) := ⟨there writer rfl, only⟩
              rw [disk_carryOut_of_openOn audited answer]
              exact @Recorder.touchesOnly_run _ _ ⟨(writer, opened), false⟩ _ touched

theorem disk_carryOut_of_unopened {path : Files.Path} (audited : settings.auditLog = some path)
    (ordinary : path.IsOrdinary) (holdable : path.IsHoldable)
    (fails : Report.opensTrail surroundings.disk (some path) = false) :
    (surroundings.carryOut set settings filter (.check arguments json strict)).disk =
      surroundings.disk := by
  rw [Report.opensTrail] at fails
  cases answer : Writer.openOn surroundings.disk path with
  | mk opened result =>
      rw [answer] at fails
      cases result with
      | ok writer => cases fails
      | error fault =>
          rw [disk_carryOut_of_error audited answer]
          exact Writer.disk_of_openOn_error ordinary holdable answer

end

theorem disk_run_of_refused (refused : (Request.read surroundings.arguments).isOk = false) :
    surroundings.run.disk = surroundings.disk := by
  rw [run]
  cases read : Request.read surroundings.arguments with
  | ok request =>
      rw [read] at refused
      cases refused
  | error refusal =>
      dsimp only
      split
      · rfl
      · rfl

section

variable {request : Request} {path : Files.Path}

theorem disk_run_of_unloaded (requested : Request.read surroundings.arguments = .ok request)
    (wrong : (Configuration.load surroundings.disk request.config).isOk = false) :
    surroundings.run.disk = surroundings.disk := by
  rcases run_of_read requested with ⟨_, _, _, ran⟩ | ⟨loaded, _, _, right, _⟩
  · rw [ran]
  · rw [right] at wrong
    cases wrong

theorem disk_run_of_rules (requested : Request.read surroundings.arguments = .ok request)
    {json : Bool} (lists : request.command = .rules json) :
    surroundings.run.disk = surroundings.disk := by
  rcases run_of_read requested with ⟨_, _, _, ran⟩ | ⟨_, _, _, _, ran⟩
  · rw [ran]
  · rw [ran, lists]
    rfl

/-- What a run with settings leaves on the disk: what it was, or what a check leaves. -/
theorem disk_run_of_settings {settings : Configuration}
    (configured : surroundings.settings? = some settings) :
    surroundings.run.disk = surroundings.disk ∨
      ∃ set filter arguments json strict, surroundings.run.disk =
        (surroundings.carryOut set settings filter (.check arguments json strict)).disk := by
  rw [settings?] at configured
  split at configured
  · cases configured
  · rename_i request requested
    split at configured
    · cases configured
    · rename_i loaded right
      obtain rfl := Option.some.inj configured
      obtain ⟨filter, notices, ran⟩ := run_of_loaded requested right
      cases command : request.command with
      | rules json => exact Or.inl (disk_run_of_rules requested command)
      | check arguments json strict =>
          rw [command] at ran
          rw [ran]
          exact Or.inr ⟨_, filter, arguments, json, strict, rfl⟩

theorem disk_run_of_no_settings (unconfigured : surroundings.settings? = none) :
    surroundings.run.disk = surroundings.disk := by
  rw [settings?] at unconfigured
  split at unconfigured
  · rename_i refusal refused
    apply disk_run_of_refused
    rw [refused]
    rfl
  · rename_i request requested
    split at unconfigured
    · rename_i fault wrong
      apply disk_run_of_unloaded requested
      rw [wrong]
      rfl
    · cases unconfigured

theorem touchesOnly_run (ordinary : ∀ path, surroundings.trailPath? = some path → path.IsOrdinary) :
    Disk.TouchesOnly (surroundings.trailPath?.map surroundings.disk.placeOf)
      surroundings.disk surroundings.run.disk := by
  cases configured : surroundings.settings? with
  | none =>
      rw [disk_run_of_no_settings configured]
      exact .refl
  | some settings =>
      rw [trailPath?, configured, Option.bind_some] at ordinary ⊢
      rcases disk_run_of_settings configured with unchanged | ⟨_, _, _, _, _, checked⟩
      · rw [unchanged]
        exact .refl
      · rw [checked]
        exact touchesOnly_carryOut ordinary

theorem disk_run_of_unopened (asked : surroundings.trailPath? = some path)
    (ordinary : path.IsOrdinary) (holdable : path.IsHoldable)
    (fails : Report.opensTrail surroundings.disk (some path) = false) :
    surroundings.run.disk = surroundings.disk := by
  rw [trailPath?, Option.bind_eq_some_iff] at asked
  obtain ⟨settings, configured, audited⟩ := asked
  rcases disk_run_of_settings configured with unchanged | ⟨_, _, _, _, _, checked⟩
  · exact unchanged
  · rw [checked]
    exact disk_carryOut_of_unopened audited ordinary holdable fails

end

/-- Whatever the arguments, the input, the configuration and the disk are, a run whose trail,
if it has one, lies at an ordinary path touches nothing but the file there and the directories
above it, and the file keeps what it held as the first part of its content.  A run leaves the
disk as it is if its arguments are refused, if its configuration cannot be loaded, if it lists
the rules, and if its trail cannot be opened at a path that a disk can hold. -/
theorem run_touches_only_trail
    (ordinary : ∀ path, surroundings.trailPath? = some path → path.IsOrdinary) :
    Disk.TouchesOnly (surroundings.trailPath?.map surroundings.disk.placeOf)
        surroundings.disk surroundings.run.disk ∧
      ((Request.read surroundings.arguments).isOk = false →
        surroundings.run.disk = surroundings.disk) ∧
      (∀ request, Request.read surroundings.arguments = .ok request →
        ((Configuration.load surroundings.disk request.config).isOk = false →
          surroundings.run.disk = surroundings.disk) ∧
        ∀ json, request.command = .rules json → surroundings.run.disk = surroundings.disk) ∧
      ∀ path, surroundings.trailPath? = some path → path.IsHoldable →
        Report.opensTrail surroundings.disk (some path) = false →
          surroundings.run.disk = surroundings.disk := by
  refine ⟨touchesOnly_run ordinary, disk_run_of_refused, ?_, ?_⟩
  · intro request requested
    exact ⟨disk_run_of_unloaded requested, fun json => disk_run_of_rules requested⟩
  · intro path asked holdable fails
    exact disk_run_of_unopened asked (ordinary path asked) holdable fails

/-- A check of the input with its trail at a path below the working directory. -/
def checkWithTrail (path : List UInt8) (disk : Disk) : Surroundings where
  arguments := [Text.Utf8.encode "check".toList, Text.Utf8.encode "--audit-log".toList, path]
  disk := disk
  stamps := fun _ => (Audit.Usage.plainEntry .processStarted).toStamp

theorem run_touches_only_trail_beside_a_file :
    let path : Files.Path := ⟨[0x64, 0x2F, 0x61]⟩
    let surroundings := checkWithTrail path.bytes ⟨.directory [([0x62], .file [0x79])], []⟩
    surroundings.trailPath? = some path ∧ path.IsOrdinary ∧
      surroundings.run.disk.root.get? [[0x62]] = some (.file [0x79]) := by
  intro path surroundings
  have asked : surroundings.trailPath? = some path := by decide +kernel
  have components : path.components = [.name [0x64], .name [0x61]] := by decide
  have ordinary : path.IsOrdinary := by
    refine ⟨rfl, ?_, rfl⟩
    simp [components]
  have ordinaryTrail : ∀ other, surroundings.trailPath? = some other → other.IsOrdinary := by
    intro other same
    rw [asked] at same
    exact Option.some.inj same ▸ ordinary
  obtain ⟨only, _⟩ := run_touches_only_trail ordinaryTrail
  refine ⟨asked, ordinary, (only.files [[0x62]] (.file [0x79]) ?_ rfl).mpr rfl⟩
  rw [asked]
  exact fun same => by cases Option.some.inj same

/-- The directory above a file whose name is too long is left behind. -/
theorem directory_left_by_long_name :
    let path : Files.Path := ⟨[0x61, 0x2F] ++ List.replicate 256 0x78⟩
    let surroundings := checkWithTrail path.bytes ⟨.directory [], []⟩
    surroundings.trailPath? = some path ∧ path.IsOrdinary ∧
      Report.opensTrail surroundings.disk (some path) = false ∧
      surroundings.run.exitStatus = 1 ∧ surroundings.disk.root.get? [[0x61]] = none ∧
      (surroundings.run.disk.root.get? [[0x61]]).isSome = true := by
  intro path surroundings
  have components : path.components = [.name [0x61], .name (List.replicate 256 0x78)] := by
    decide +kernel
  have ordinary : path.IsOrdinary := by
    refine ⟨rfl, ?_, by decide +kernel⟩
    intro component member
    rw [components] at member
    rcases List.mem_cons.mp member with rfl | later
    · exact ⟨_, rfl⟩
    · exact ⟨_, List.mem_singleton.mp later⟩
  exact ⟨by decide +kernel, ordinary, by decide +kernel, by decide +kernel, rfl,
    by decide +kernel⟩

end Surroundings

end LinkVetting
