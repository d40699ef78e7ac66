import SupervisorRelay.Source.Startup

/-! The command line. What `parse` reads is a row of options; it stops at the first
argument that is none, and an argument after `--config` is a path whatever it looks like. -/
namespace SupervisorRelay

inductive CommandOption where
  | config (path : PathBuf)
  | check
deriving DecidableEq

/-- The arguments that an option is written with. -/
def CommandOption.words : CommandOption → List String
  | config path => ["--config", path]
  | check => ["--check"]

def commandLine (options : List CommandOption) : List String :=
  options.flatMap CommandOption.words

/-- The path that counts is the last one. -/
def lastConfig : List CommandOption → Option PathBuf
  | [] => none
  | .config path :: rest => (lastConfig rest).or (some path)
  | .check :: rest => lastConfig rest

/-- What `parse` says of a row of options and of the first arguments that continue it no
further. -/
inductive CommandLineEnd (options : List CommandOption) : List String → RelayResult Args → Prop
  | accepted {path : PathBuf} (h : lastConfig options = some path) :
      CommandLineEnd options [] (.ok ⟨path, decide (CommandOption.check ∈ options)⟩)
  | unconfigured (h : lastConfig options = none) :
      CommandLineEnd options []
        (.error (.new "missing_config_arg" "args" none "--config is required" false))
  | pathless :
      CommandLineEnd options ["--config"]
        (.error (.new "missing_config_arg" "args" none "--config requires a path" false))
  | unknown {other : String} (hconfig : other ≠ "--config") (hcheck : other ≠ "--check")
      (rest : List String) :
      CommandLineEnd options (other :: rest)
        (.error (.new "unknown_arg" "args" none ("unknown argument: " ++ other) false))

namespace Args

variable (configPath : Option PathBuf) (checkOnly : Bool)

theorem parseFrom_config (path : PathBuf) (rest : List String) :
    parseFrom configPath checkOnly ("--config" :: path :: rest) =
      parseFrom (some path) checkOnly rest := by
  rw [parseFrom.eq_def]
  rfl

theorem parseFrom_check (rest : List String) :
    parseFrom configPath checkOnly ("--check" :: rest) = parseFrom configPath true rest := by
  rw [parseFrom.eq_def]
  rfl

theorem parseFrom_unknown {other : String} (hconfig : other ≠ "--config")
    (hcheck : other ≠ "--check") (rest : List String) :
    parseFrom configPath checkOnly (other :: rest) =
      .error (.new "unknown_arg" "args" none ("unknown argument: " ++ other) false) := by
  rw [parseFrom.eq_def]
  dsimp only
  rw [if_neg hconfig, if_neg hcheck]

theorem parseFrom_options (options : List CommandOption) (rest : List String) :
    parseFrom configPath checkOnly (commandLine options ++ rest) =
      parseFrom ((lastConfig options).or configPath)
        (checkOnly || decide (CommandOption.check ∈ options)) rest := by
  induction options generalizing configPath checkOnly with
  | nil => simp [commandLine, lastConfig]
  | cons option options ih =>
      cases option with
      | config path =>
          change parseFrom configPath checkOnly
            ("--config" :: path :: (commandLine options ++ rest)) = _
          rw [parseFrom_config, ih]
          simp [lastConfig]
      | check =>
          change parseFrom configPath checkOnly ("--check" :: (commandLine options ++ rest)) = _
          rw [parseFrom_check, ih]
          simp [lastConfig]

/-- Every command line is a row of options and an end. -/
theorem parse_ends : (args : List String) →
    ∃ options rest, args = commandLine options ++ rest ∧
      (rest = [] ∨ rest = ["--config"] ∨
        ∃ other more, rest = other :: more ∧ other ≠ "--config" ∧ other ≠ "--check")
  | [] => ⟨[], [], rfl, .inl rfl⟩
  | argument :: more => by
      by_cases hconfig : argument = "--config"
      · cases more with
        | nil => exact ⟨[], [argument], rfl, .inr (.inl (by rw [hconfig]))⟩
        | cons path more =>
            obtain ⟨options, rest, rfl, hrest⟩ := parse_ends more
            exact ⟨.config path :: options, rest, by rw [hconfig]; rfl, hrest⟩
      by_cases hcheck : argument = "--check"
      · obtain ⟨options, rest, rfl, hrest⟩ := parse_ends more
        exact ⟨.check :: options, rest, by rw [hcheck]; rfl, hrest⟩
      exact ⟨[], argument :: more, rfl, .inr (.inr ⟨argument, more, rfl, hconfig, hcheck⟩)⟩

theorem parse_of_end {options : List CommandOption} {rest : List String}
    {result : RelayResult Args} (h : CommandLineEnd options rest result) :
    parse (commandLine options ++ rest) = result := by
  rw [parse, parseFrom_options]
  cases h with
  | accepted hlast => simp [parseFrom, hlast]
  | unconfigured hlast => simp [parseFrom, hlast]
  | pathless => simp [parseFrom]
  | unknown hconfig hcheck more => rw [parseFrom_unknown _ _ hconfig hcheck]

end Args

/-- The command line decides what `parse` answers: accepted is a row of options with a
path among them, of which the last one counts; otherwise the first defect is reported. -/
theorem args_parse_iff (args : List String) (result : RelayResult Args) :
    Args.parse args = result ↔
      ∃ options rest, args = commandLine options ++ rest ∧
        CommandLineEnd options rest result := by
  constructor
  · rintro rfl
    obtain ⟨options, rest, rfl, hrest⟩ := Args.parse_ends args
    refine ⟨options, rest, rfl, ?_⟩
    rcases hrest with rfl | rfl | ⟨other, more, rfl, hconfig, hcheck⟩
    · cases hlast : lastConfig options with
      | none =>
          rw [Args.parse_of_end (.unconfigured hlast)]
          exact .unconfigured hlast
      | some path =>
          rw [Args.parse_of_end (.accepted hlast)]
          exact .accepted hlast
    · rw [Args.parse_of_end .pathless]
      exact .pathless
    · rw [Args.parse_of_end (.unknown hconfig hcheck more)]
      exact .unknown hconfig hcheck more
  · rintro ⟨options, rest, rfl, hend⟩
    exact Args.parse_of_end hend

example : Args.parse ["--config", "--check", "--config", "relay.yaml"] =
    .ok ⟨"relay.yaml", false⟩ := by
  decide

end SupervisorRelay
