import WebhookRelay.Proofs.CommandLine.Help
import WebhookRelay.Proofs.CommandLine.Reading
import WebhookRelay.Proofs.Settings.Loading
import WebhookRelay.Start

/-!
# The level is handed over

The command line and the served application agree on the level only through a variable of the
environment, which is written once the command line has been read. If it cannot be read, nothing
changes. Otherwise the server is started once, and the settings of the application have the level
that the command line gives last, whatever the variable held before.

Two things can come between, and then nothing changes either: a default in the help text can make a
field that cannot be filled, and the level can have a character that no variable holds.

- `levelOf`: the level that a command line gives.
- `BreaksOff`: the help text is asked for, but there is none.
- `Buildable`: the application can be built once it has been handed a level.
- `Log.Threshold.IsNamedBy`: what a level's name makes the loggers show.
- `HandsOver`: how a command line is carried out.
-/

namespace WebhookRelay

open CommandLine

/-! ## The level of a command line -/

/-- The level that is given, if this is one. -/
def CommandLine.Given.logLevel? : Given → Option String
  | .logLevel value => some value
  | _ => none

/-- The level that is given last, or else the default. -/
def levelOf (defaults : Settings) (givens : List Given) : String :=
  (givens.filterMap Given.logLevel?).getLast?.getD defaults.logLevel

/-- A launch has the level that is given last. -/
theorem logLevel_foldl_apply (l : Launch) (givens : List Given) :
    (givens.foldl Given.apply l).logLevel =
      (givens.filterMap Given.logLevel?).getLast?.getD l.logLevel := by
  induction givens generalizing l with
  | nil => rfl
  | cons g rest ih =>
    rw [List.foldl_cons, ih]
    cases g with
    | host | port => rfl
    | logLevel value =>
      show _ = (value :: rest.filterMap Given.logLevel?).getLast?.getD l.logLevel
      rw [List.getLast?_cons]
      rfl

/-! ## The application -/

/-- Once a level has been handed over, the application can be built: a variable can hold the level,
and both the settings and the level can be used. -/
structure Buildable (env : Settings.Environment) (level : String) : Prop where
  storable : isStorable level = true
  builds : ∃ app, App.build (Dictionary.put env levelVariable level) = .ok app

namespace Log.Threshold

/-- A threshold is the one that a name stands for in any letter case, or that for informative
records if the name stands for none. -/
def IsNamedBy (t : Threshold) (name : String) : Prop :=
  (Text.upper name, t) ∈ names ∨
    (∀ t', (Text.upper name, t') ∉ names) ∧ t = .atLeast .info

theorem isNamedBy_of_ofName {name : String} {t : Threshold} (h : ofName name = .ok t) :
    t.IsNamedBy name := by
  unfold ofName at h
  dsimp only at h
  split at h
  · cases h
  · cases hlookup : names.lookup (Text.upper name) with
    | none =>
      rw [hlookup] at h
      cases h
      refine .inr ⟨fun t' hmem => ?_, rfl⟩
      exact absurd (List.lookup_eq_none_iff.mp hlookup _ hmem) (by simp)
    | some t' =>
      rw [hlookup] at h
      cases h
      exact .inl (Dictionary.mem_of_lookup hlookup)

end Log.Threshold

/-- An application is built from settings that can be loaded, and shows what their level names. -/
theorem App.build_eq_ok_iff {env : Settings.Environment} {app : App} :
    App.build env = .ok app ↔
      Settings.load env [] = .ok app.settings ∧
        Log.Threshold.ofName app.settings.logLevel = .ok app.threshold := by
  unfold App.build
  cases Settings.load env [] with
  | error e => exact ⟨nofun, fun h => nomatch h.1⟩
  | ok s =>
    show ((Log.Threshold.ofName s.logLevel).mapError StartError.threshold >>= fun threshold =>
      pure (App.mk s threshold)) = _ ↔ _
    rw [Except.ok.injEq]
    cases hname : Log.Threshold.ofName s.logLevel with
    | error m =>
      refine ⟨nofun, ?_⟩
      rintro ⟨rfl, h⟩
      rw [hname] at h
      cases h
    | ok threshold =>
      constructor
      · rintro ⟨⟩
        exact ⟨rfl, hname⟩
      · obtain ⟨settings, threshold'⟩ := app
        rintro ⟨rfl, h⟩
        rw [hname] at h
        cases h
        rfl

/-! ## Handing over -/

section

variable {env : Settings.Environment} {level : String}
  (hkeys : (env.map Prod.fst).Nodup)
  (hcase : ∀ e ∈ env, Text.lower e.1 = "hookrelay_log_level" → e.1 = levelVariable)

include hkeys hcase

/-- An application that has been handed a level has the settings that it would have had without it,
but for the level. -/
theorem settings_of_build {app : App}
    (h : App.build (Dictionary.put env levelVariable level) = .ok app) :
    ∃ s, Settings.load env [] = .ok s ∧ app.settings = { s with logLevel := level } := by
  have hkey : Text.lower levelVariable = Settings.variableStart ++ "log_level" := by
    decide +kernel
  have hothers : ∀ name ≠ "log_level",
      Settings.valueOf? (Dictionary.put env levelVariable level) name =
        Settings.valueOf? env name :=
    fun name hname => Settings.valueOf?_put_of_ne hkey hname
  have hlevel : Settings.valueOf? (Dictionary.put env levelVariable level) "log_level" =
      some level := Settings.valueOf?_put hkey hkeys hcase
  exact (Settings.load_eq_ok_iff_of_logLevel hothers hlevel).mp (App.build_eq_ok_iff.mp h).1

end

/-- What is launched for a command line that gives this. -/
def launchOf (defaults : Settings) (givens : List Given) : Launch :=
  givens.foldl Given.apply (.ofSettings defaults)

variable {defaults : Settings} {arguments : List String} {w : World}

/-- The help text is asked for, but there is none. -/
def BreaksOff (defaults : Settings) (arguments : List String) : Prop :=
  CommandLine.read (.ofSettings defaults) arguments = .error .help ∧ help defaults = none

/-- Then nothing changes. -/
theorem command_of_breaksOff (h : BreaksOff defaults arguments) :
    command defaults arguments w = (w, .error .brokenHelp) := by
  unfold command
  rw [h.1]
  dsimp only
  rw [h.2]
  rfl

/-- Otherwise a command line that spells nothing ends the program and changes nothing. -/
theorem command_of_not_spells (h : ¬ ∃ givens, Spells arguments givens)
    (hhelp : ¬ BreaksOff defaults arguments) :
    ∃ e, command defaults arguments w = (w, .error (.exit e)) := by
  unfold command
  cases hread : CommandLine.read (.ofSettings defaults) arguments with
  | error e =>
    cases e with
    | problem p => exact ⟨.problem p, rfl⟩
    | help =>
      have hsome : (help defaults).isSome = true :=
        Option.isSome_iff_ne_none.mpr fun hnone => hhelp ⟨hread, hnone⟩
      refine ⟨.help, ?_⟩
      dsimp only
      rw [if_pos hsome]
  | ok launch =>
    obtain ⟨givens, hspells, -⟩ := read_eq_ok_iff.mp hread
    exact absurd ⟨givens, hspells⟩ h

/-- Any other one launches what it gives, if the level can be stored. -/
theorem command_of_spells {givens : List Given} (h : Spells arguments givens) :
    command defaults arguments w =
      if isStorable (levelOf defaults givens) then
        (w.launch (launchOf defaults givens), .ok (launchOf defaults givens))
      else (w, .error .unstorableLevel) := by
  unfold command
  rw [read_eq_ok_iff.mpr ⟨givens, h, rfl⟩]
  dsimp only
  rw [logLevel_foldl_apply]
  rfl

/-- So it is only then that the program ends at once. -/
theorem not_spells_of_exit {e : Exit}
    (h : (command defaults arguments w).2 = .error (.exit e)) :
    (¬ ∃ givens, Spells arguments givens) ∧ ¬ BreaksOff defaults arguments := by
  constructor
  · rintro ⟨givens, hspells⟩
    rw [command_of_spells hspells] at h
    split at h <;> cases h
  · intro hbreaks
    rw [command_of_breaksOff hbreaks] at h
    cases h

/-- How a command line is carried out in an environment. -/
structure HandsOver (defaults : Settings) (env : Settings.Environment) (arguments : List String) :
    Prop where
  /-- The program ends at once exactly if the command line spells nothing, unless it breaks off. -/
  exits : (∃ e, (command defaults arguments ⟨env, []⟩).2 = .error (.exit e)) ↔
    (¬ ∃ givens, Spells arguments givens) ∧ ¬ BreaksOff defaults arguments
  /-- Then the environment is as before, and the server is not started. -/
  untouched : ∀ e, (command defaults arguments ⟨env, []⟩).2 = .error (.exit e) →
    (command defaults arguments ⟨env, []⟩).1 = ⟨env, []⟩
  /-- So it is if the program breaks off. -/
  broken : BreaksOff defaults arguments →
    command defaults arguments ⟨env, []⟩ = (⟨env, []⟩, .error .brokenHelp)
  /-- It does not if there is no percent sign in the defaults. -/
  unbroken : '%' ∉ defaults.host.toList → '%' ∉ defaults.logLevel.toList →
    ¬ BreaksOff defaults arguments
  /-- A level that no variable can hold is not handed over, and the server is not started. -/
  unstorable : ∀ givens, Spells arguments givens → isStorable (levelOf defaults givens) = false →
    command defaults arguments ⟨env, []⟩ = (⟨env, []⟩, .error .unstorableLevel)
  /-- Otherwise the server is started once, and the level that is given last is its own, that of
  the variable, and that of the application, whose loggers show what it names. -/
  hands : ∀ givens, Spells arguments givens → Buildable env (levelOf defaults givens) →
    ∃ launch app, (command defaults arguments ⟨env, []⟩).1.served = [launch] ∧
      launch.logLevel = levelOf defaults givens ∧
      (command defaults arguments ⟨env, []⟩).1.environment.lookup levelVariable =
        some (levelOf defaults givens) ∧
      App.build (command defaults arguments ⟨env, []⟩).1.environment = .ok app ∧
      app.settings.logLevel = levelOf defaults givens ∧
      app.threshold.IsNamedBy (levelOf defaults givens)

/-- **The level is handed over**, whatever the defaults, the command line and the environment are,
as long as the environment has only one variable for the level. -/
theorem command_handsOver (defaults : Settings) (env : Settings.Environment)
    (arguments : List String) (hkeys : (env.map Prod.fst).Nodup)
    (hcase : ∀ e ∈ env, Text.lower e.1 = "hookrelay_log_level" → e.1 = levelVariable) :
    HandsOver defaults env arguments where
  exits := by
    constructor
    · rintro ⟨e, he⟩
      exact not_spells_of_exit he
    · rintro ⟨h, hhelp⟩
      obtain ⟨e, he⟩ := command_of_not_spells h hhelp
      exact ⟨e, by rw [he]⟩
  untouched e he := by
    obtain ⟨h, hhelp⟩ := not_spells_of_exit he
    obtain ⟨e', he'⟩ := command_of_not_spells h hhelp
    rw [he']
  broken := command_of_breaksOff
  unbroken hhost hlevel hbreaks := by
    have hsome := help_isSome hhost hlevel
    rw [hbreaks.2] at hsome
    cases hsome
  unstorable givens hspells hlevel := by
    rw [command_of_spells hspells, if_neg (Bool.eq_false_iff.mp hlevel)]
  hands givens hspells hbuildable := by
    obtain ⟨app, happ⟩ := hbuildable.builds
    have hlevel : (launchOf defaults givens).logLevel = levelOf defaults givens :=
      logLevel_foldl_apply _ _
    obtain ⟨s, -, hsettings⟩ := settings_of_build hkeys hcase happ
    have hname := (App.build_eq_ok_iff.mp happ).2
    rw [hsettings] at hname
    rw [command_of_spells hspells, if_pos hbuildable.storable]
    dsimp only [World.launch]
    refine ⟨launchOf defaults givens, app, rfl, hlevel, ?_, ?_, ?_, ?_⟩
    · rw [hlevel, Dictionary.lookup_put, beq_self_eq_true, if_pos rfl]
    · rw [hlevel, happ]
    · rw [hsettings]
    · exact Log.Threshold.isNamedBy_of_ofName hname

/-- A shortened flag with its level attached: the environment held another level before. -/
theorem command_handsOver_of_short :
    ([("HOOKRELAY_LOG_LEVEL", "info")].map Prod.fst).Nodup ∧
      (∀ e ∈ [("HOOKRELAY_LOG_LEVEL", "info")],
        Text.lower e.1 = "hookrelay_log_level" → e.1 = levelVariable) ∧
      ∃ launch, (command {} ["--log-level", "error", "--lo=debug"]
          ⟨[("HOOKRELAY_LOG_LEVEL", "info")], []⟩).1.served = [launch] ∧
        launch.logLevel = "debug" := by
  have hkeys : ([("HOOKRELAY_LOG_LEVEL", "info")].map Prod.fst).Nodup := by decide
  have hcase : ∀ e ∈ [("HOOKRELAY_LOG_LEVEL", "info")],
      Text.lower e.1 = "hookrelay_log_level" → e.1 = levelVariable := by
    decide +kernel
  have hname : Names "--log-level".toList .logLevel := ⟨by decide, "--log-level", by decide +kernel⟩
  have hshort : Names "--lo".toList .logLevel := ⟨by decide, "--log-level", by decide +kernel⟩
  have hattached : Spells ["--lo" ++ "=" ++ "debug"] [.logLevel "debug"] :=
    .attached hshort rfl .nil
  have hspells : Spells ["--log-level", "error", "--lo=debug"]
      [.logLevel "error", .logLevel "debug"] :=
    .apart hname (.inl (by decide)) rfl hattached
  have hbuildable : Buildable [("HOOKRELAY_LOG_LEVEL", "info")] "debug" :=
    ⟨by decide +kernel, _, rfl⟩
  obtain ⟨launch, -, hserved, hlevel, -⟩ :=
    (command_handsOver {} _ _ hkeys hcase).hands _ hspells hbuildable
  exact ⟨hkeys, hcase, launch, hserved, hlevel⟩

/-- Two command lines with which the program neither exits nor starts the server. The first asks for
the help text, and the level has a percent sign, although an application can be built with it; the
second gives a level with a null character. -/
theorem not_exits_of_percent_of_null :
    (∃ defaults, Settings.load [("HOOKRELAY_LOG_LEVEL", "100%")] [] = .ok defaults ∧
      Buildable [("HOOKRELAY_LOG_LEVEL", "100%")] "100%" ∧
      command defaults ["--help"] ⟨[("HOOKRELAY_LOG_LEVEL", "100%")], []⟩ =
        (⟨[("HOOKRELAY_LOG_LEVEL", "100%")], []⟩, .error .brokenHelp)) ∧
    command {} ["--log-level", "a\x00b"] ⟨[], []⟩ = (⟨[], []⟩, .error .unstorableLevel) := by
  refine ⟨⟨{ logLevel := "100%" }, by rfl, ⟨by decide +kernel, _, rfl⟩, ?_⟩, by decide +kernel⟩
  exact command_of_breaksOff ⟨by rfl, by decide +kernel⟩

end WebhookRelay
