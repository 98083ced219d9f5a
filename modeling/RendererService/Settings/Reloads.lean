import RendererService.Settings.Levels

/-!
# Reloads

The settings are read again a second after the last event of the local file.  What they
are is what the key file says that was found then; the log follows them as long as a key
file is found.
-/

namespace RendererService.Settings

open Transition

variable {config : Config} {p p' p₀ : Process} {i : Input} {is : List Input}

/-! ## What the settings are -/

structure Values where
  neverQuit : Bool
  logType : RsuLogType
  logLevel : Nat

def RsuSettingsContext.values (settings : RsuSettingsContext) : Values :=
  ⟨settings.neverQuit, settings.logType, settings.logLevel⟩

/-- The keys of the file, and what `configure` decided for the others. -/
def Config.values (config : Config) (keyfile : Option KeyFile) : Values where
  neverQuit := (keyfile.bind KeyFile.neverQuit).getD config.neverQuit
  logType := ((keyfile.bind KeyFile.logType).map prvRsuSettingsToLogType).getD config.logType
  logLevel := ((keyfile.bind KeyFile.logLevel).map prvRsuSettingsToLogLevel).getD config.logLevel

theorem prvRsuSettingsReadKeys_eq (keyfile : KeyFile) (settings : RsuSettingsContext) :
    prvRsuSettingsReadKeys keyfile settings =
      { settings with
        neverQuit := keyfile.neverQuit.getD settings.neverQuit
        logType := (keyfile.logType.map prvRsuSettingsToLogType).getD settings.logType
        logLevel := (keyfile.logLevel.map prvRsuSettingsToLogLevel).getD settings.logLevel } := by
  obtain ⟨neverQuit, logType, logLevel⟩ := keyfile
  cases neverQuit <;> cases logType <;> cases logLevel <;> rfl

/-- What a load leaves: the settings are those of the file that was found, and so is the
log, if one was found. -/
structure Loaded (config : Config) (p p' : Process) : Prop where
  keyfile : p'.settings.keyfile = p.disk.load
  values : p'.settings.values = config.values p.disk.load
  log : (p'.settings.keyfile ≠ none ∧ p'.log =
      rsuLogUpdateTypeLevel config p'.settings.logType p'.settings.logLevel p.log) ∨
    p'.settings.keyfile = none ∧ p'.log = p.log
  monitor : p'.settings.monitor = p.settings.monitor
  rest : p'.disk = p.disk ∧ p'.events = p.events ∧ p'.timers = p.timers ∧
    p'.nextSource = p.nextSource

theorem load_eq_none (hpaths : ¬(p.disk.sysPath = true ∨ p.disk.locPath = true)) :
    p.disk.load = none := by
  rw [not_or] at hpaths
  simp [Disk.load, prvRsuSettingsLoadKeyfile, hpaths.1, hpaths.2]

theorem loaded_keyfileInit (hdefaults : p.settings.values = config.values none)
    (hkeyfile : p.settings.keyfile = none) :
    Loaded config p (if p.disk.sysPath = true ∨ p.disk.locPath = true then
      prvRsuSettingsKeyfileInit config p else p) := by
  obtain ⟨hquit, htype, hlevel⟩ := Values.mk.inj hdefaults
  split
  · unfold prvRsuSettingsKeyfileInit
    dsimp only
    cases hload : p.disk.load with
    | none => exact ⟨hload.symm, by rw [hload]; exact hdefaults, .inr ⟨rfl, rfl⟩, rfl,
        rfl, rfl, rfl, rfl⟩
    | some keyfile =>
        dsimp only
        rw [prvRsuSettingsReadKeys_eq]
        refine ⟨hload.symm, ?_, .inl ⟨by simp, rfl⟩, rfl, rfl, rfl, rfl, rfl⟩
        rw [hload]
        simp only [RsuSettingsContext.values, Config.values, hquit, htype, hlevel,
          Option.bind_some, Option.bind_none, Option.map_none, Option.getD_none]
  next hpaths =>
    have hnone := load_eq_none hpaths
    exact ⟨by rw [hnone, hkeyfile], by rw [hnone, hdefaults], .inr ⟨hkeyfile, rfl⟩, rfl,
      rfl, rfl, rfl, rfl⟩

theorem evId_keyfileInit (config : Config) (p : Process) :
    (if p.disk.sysPath = true ∨ p.disk.locPath = true then
      prvRsuSettingsKeyfileInit config p else p).settings.evId = p.settings.evId := by
  unfold prvRsuSettingsKeyfileInit
  dsimp only
  split
  · split
    · rw [prvRsuSettingsReadKeys_eq]
    · rfl
  · rfl

theorem loaded_prvRsuSettingsReload (config : Config) (p : Process) :
    Loaded config p (prvRsuSettingsReload config p) := by
  have hload := loaded_keyfileInit (p := { p with
    settings := prvRsuSettingsInitDefault config (prvRsuSettingsKeyfileFinalize p.settings) })
    rfl rfl
  exact ⟨hload.keyfile, hload.values, hload.log, hload.monitor, hload.rest⟩

/-! ## One step -/

/-- The system starts with `rsu_log_init` and `rsu_settings_new`. -/
abbrev run (config : Config) (disk : Disk) (log : LogState) (made copied monitored : Bool) :
    System Process Input :=
  system config (begin config disk log made copied monitored)

/-- What holds between two callbacks: the settings are those of the key file that was
loaded last, at most one timer is pending, and the log follows the settings as long as
there is a key file. -/
structure ProcessOk (config : Config) (log : LogState) (p : Process) : Prop where
  values : p.settings.values = config.values p.settings.keyfile
  timers : p.timers = if p.settings.evId = 0 then [] else [p.settings.evId]
  source : 0 < p.nextSource
  follows : p.settings.keyfile ≠ none →
    Filters config p.settings.logLevel p.log ∧ p.log.context.logType = p.settings.logType
  handler : p.log.handler = .prvRsuLogHandler
  oldMask : p.log.context.oldMask = log.syslogMask
  oldHandler : p.log.context.oldHandler = some log.handler

theorem Loaded.ok {log : LogState} (h : Loaded config p p')
    (htimers : p'.timers = if p'.settings.evId = 0 then [] else [p'.settings.evId])
    (hsource : 0 < p.nextSource) (hhandler : p.log.handler = .prvRsuLogHandler)
    (hmask : p.log.context.oldMask = log.syslogMask)
    (hold : p.log.context.oldHandler = some log.handler) : ProcessOk config log p' := by
  obtain ⟨-, -, -, hsource'⟩ := h.rest
  have hlog : p'.log.handler = p.log.handler ∧
      p'.log.context.oldMask = p.log.context.oldMask ∧
      p'.log.context.oldHandler = p.log.context.oldHandler := by
    rcases h.log with ⟨-, hupdate⟩ | ⟨-, hsame⟩
    · rw [hupdate]
      simp [rsuLogUpdateTypeLevel]
    · rw [hsame]
      exact ⟨rfl, rfl, rfl⟩
  refine ⟨by rw [h.keyfile]; exact h.values, htimers,
    by rw [hsource']; exact hsource, ?_, hlog.1.trans hhandler, hlog.2.1.trans hmask,
    hlog.2.2.trans hold⟩
  intro hkeyfile
  obtain ⟨-, hupdate⟩ := h.log.resolve_right fun hnone => hkeyfile hnone.1
  rw [hupdate]
  exact ⟨filters_rsuLogUpdateTypeLevel hhandler config _ _, by simp [rsuLogUpdateTypeLevel]⟩

theorem locPath_checkLocalKeyfile (made copied : Bool) (disk : Disk) :
    (prvRsuSettingsCheckLocalKeyfile made copied disk).locPath = disk.locPath := by
  unfold prvRsuSettingsCheckLocalKeyfile
  dsimp only
  split_ifs <;> rfl

theorem loaded_begin (config : Config) (disk : Disk) (log : LogState)
    (made copied monitored : Bool) : ∃ p, Loaded config p
      (begin config disk log made copied monitored) ∧ p.log = rsuLogInit config log ∧
      p.timers = [] ∧ p.nextSource = 1 ∧ p.disk.locPath = disk.locPath ∧
      p.settings.monitor = (disk.locPath && monitored) ∧
      (begin config disk log made copied monitored).settings.evId = 0 := by
  unfold begin rsuSettingsNew
  dsimp only
  split
  next hpath =>
    refine ⟨_, loaded_keyfileInit ?_ ?_, rfl, rfl, rfl, ?_, ?_, ?_⟩
    · cases monitored <;> rfl
    · cases monitored <;> rfl
    · exact locPath_checkLocalKeyfile made copied disk
    · rw [hpath]
      cases monitored <;> rfl
    · rw [evId_keyfileInit]
      cases monitored <;> rfl
  next hpath =>
    have hnone : disk.locPath = false := by simpa using hpath
    refine ⟨_, loaded_keyfileInit rfl rfl, rfl, rfl, rfl, rfl, by rw [hnone]; rfl, ?_⟩
    rw [evId_keyfileInit]
    rfl

theorem begin_ok (config : Config) (disk : Disk) (log : LogState)
    (made copied monitored : Bool) :
    ProcessOk config log (begin config disk log made copied monitored) := by
  obtain ⟨p, hload, hlog, htimers, hsource, -, -, hevId⟩ :=
    loaded_begin config disk log made copied monitored
  refine hload.ok ?_ ?_ ?_ ?_ ?_
  · rw [hload.rest.2.2.1, htimers, hevId, if_pos rfl]
  · rw [hsource]
    exact Nat.one_pos
  · rw [hlog]
    rfl
  · rw [hlog]
    simp [rsuLogInit]
  · rw [hlog]
    simp [rsuLogInit]

theorem ProcessOk.monitorKeyfileCb {log : LogState} (h : ProcessOk config log p)
    (event : GFileMonitorEvent) :
    ProcessOk config log (prvRsuSettingsMonitorKeyfileCb event p) := by
  unfold prvRsuSettingsMonitorKeyfileCb
  split
  · refine ⟨h.values, ?_, Nat.succ_pos _, h.follows, h.handler, h.oldMask, h.oldHandler⟩
    have hne : p.nextSource ≠ 0 := Nat.ne_of_gt h.source
    dsimp only
    rw [if_neg hne, h.timers]
    by_cases hevId : p.settings.evId = 0
    · simp [hevId]
    · simp [hevId]
  · exact h

theorem ProcessOk.fired {log : LogState} (h : ProcessOk config log p) {id : Nat}
    (hid : id ∈ p.timers) : p.timers.filter (fun id' => id' ≠ id) = [] := by
  rw [h.timers] at hid ⊢
  split at hid
  · cases hid
  next hne =>
    obtain rfl := List.mem_singleton.mp hid
    simp [hne]

theorem ProcessOk.timeout {log : LogState} (h : ProcessOk config log p) {id : Nat}
    (hid : id ∈ p.timers) : ProcessOk config log (prvRsuSettingsMonitorTimoutCb config
      { p with timers := p.timers.filter fun id' => id' ≠ id }) := by
  have hload := loaded_prvRsuSettingsReload config
    { p with timers := p.timers.filter fun id' => id' ≠ id }
  have hreset : Loaded config { p with timers := p.timers.filter fun id' => id' ≠ id }
      (prvRsuSettingsMonitorTimoutCb config
        { p with timers := p.timers.filter fun id' => id' ≠ id }) :=
    ⟨hload.keyfile, hload.values, hload.log, hload.monitor, hload.rest⟩
  refine hreset.ok ?_ h.source h.handler h.oldMask h.oldHandler
  rw [hreset.rest.2.2.1]
  exact h.fired hid

/-- Every step keeps the invariant; without a key file the log stays as it was. -/
theorem step_ok {log : LogState} (h : ProcessOk config log p)
    (hstep : stepFn config p i = some p') :
    ProcessOk config log p' ∧ (p'.settings.keyfile = none → p'.log = p.log) := by
  cases i with
  | writeLocal file events =>
      obtain rfl := Option.some.inj hstep
      exact ⟨⟨h.values, h.timers, h.source, h.follows, h.handler, h.oldMask, h.oldHandler⟩,
        fun _ => rfl⟩
  | writeSystem file =>
      obtain rfl := Option.some.inj hstep
      exact ⟨⟨h.values, h.timers, h.source, h.follows, h.handler, h.oldMask, h.oldHandler⟩,
        fun _ => rfl⟩
  | monitorEvent =>
      rw [stepFn] at hstep
      split at hstep
      · cases hstep
      next event rest hevents =>
        obtain rfl := Option.some.inj hstep
        have hrest : ProcessOk config log { p with events := rest } :=
          ⟨h.values, h.timers, h.source, h.follows, h.handler, h.oldMask, h.oldHandler⟩
        refine ⟨hrest.monitorKeyfileCb event, fun _ => ?_⟩
        unfold prvRsuSettingsMonitorKeyfileCb
        split
        · rfl
        · rfl
  | timeout id =>
      rw [stepFn] at hstep
      split at hstep
      next hid =>
        obtain rfl := Option.some.inj hstep
        refine ⟨h.timeout hid, fun hnone => ?_⟩
        have hload := loaded_prvRsuSettingsReload config
          { p with timers := p.timers.filter fun id' => id' ≠ id }
        exact (hload.log.resolve_left fun hsome => hsome.1 hnone).2
      · cases hstep

/-! ## Runs -/

variable {disk : Disk} {log : LogState} {made copied monitored : Bool}

theorem run_ok (h : (run config disk log made copied monitored).Reaches is p) :
    ProcessOk config log p := by
  refine h.invariant (I := ProcessOk config log) ?_ ?_
  · intro p hstart
    obtain rfl : p = begin config disk log made copied monitored := hstart
    exact begin_ok config disk log made copied monitored
  · exact fun p i p' hok hstep => (step_ok hok hstep).1

/-- The log follows the last state of the run that has a key file, or the first state
if none has one. -/
structure FollowedBy (T : System Process Input) (config : Config) (is : List Input)
    (p : Process) (is₁ : List Input) (p₁ : Process) : Prop where
  reached : T.Reaches is₁ p₁
  keyfile : is₁ = [] ∨ p₁.settings.keyfile ≠ none
  since : (is₁ = is ∧ p₁ = p) ∨ ∃ i is₂ p₂, is = is₁ ++ i :: is₂ ∧ T.step p₁ i p₂ ∧
    T.Through (fun p => p.settings.keyfile = none) p₂ is₂ p
  log : p.log = p₁.log
  filters : Filters config p₁.settings.logLevel p₁.log
  logType : p₁.log.context.logType = p₁.settings.logType

/-- Before the first load the log is that of `configure`, and so are the settings. -/
theorem followed_begin (config : Config) (disk : Disk) (log : LogState)
    (made copied monitored : Bool) :
    FollowedBy (run config disk log made copied monitored) config []
      (begin config disk log made copied monitored) []
      (begin config disk log made copied monitored) := by
  have hok := begin_ok config disk log made copied monitored
  have hfollows : Filters config
      (begin config disk log made copied monitored).settings.logLevel
      (begin config disk log made copied monitored).log ∧
      (begin config disk log made copied monitored).log.context.logType =
        (begin config disk log made copied monitored).settings.logType := by
    by_cases hkeyfile : (begin config disk log made copied monitored).settings.keyfile = none
    · obtain ⟨p, hload, hlog, -⟩ := loaded_begin config disk log made copied monitored
      have hsame := (hload.log.resolve_left fun hsome => hsome.1 hkeyfile).2
      obtain ⟨-, htype, hlevel⟩ := Values.mk.inj hok.values
      rw [hkeyfile] at htype hlevel
      rw [htype, hlevel, hsame, hlog]
      exact ⟨filters_rsuLogInit config log, by simp [rsuLogInit, prvRsuLogSetFlagsFromParam]⟩
    · exact hok.follows hkeyfile
  exact ⟨.init rfl, .inl rfl, .inl ⟨rfl, rfl⟩, rfl, hfollows.1, hfollows.2⟩

/-- A step that finds no key file leaves the log to the state that it followed. -/
theorem FollowedBy.step {is₁ : List Input} {p₁ : Process}
    (h : FollowedBy (run config disk log made copied monitored) config is p is₁ p₁)
    (hstep : stepFn config p i = some p') (hkeyfile : p'.settings.keyfile = none)
    (hlog : p'.log = p.log) :
    FollowedBy (run config disk log made copied monitored) config (is ++ [i]) p' is₁ p₁ := by
  refine ⟨h.reached, h.keyfile, .inr ?_, hlog.trans h.log, h.filters, h.logType⟩
  rcases h.since with ⟨rfl, rfl⟩ | ⟨i₁, is₂, p₂, rfl, hfirst, hthrough⟩
  · exact ⟨i, [], p', rfl, hstep, .refl hkeyfile⟩
  · exact ⟨i₁, is₂ ++ [i], p₂, by simp, hfirst, hthrough.step hstep hkeyfile⟩

theorem run_followed (h : (run config disk log made copied monitored).Reaches is p) :
    ∃ is₁ p₁, FollowedBy (run config disk log made copied monitored) config is p is₁ p₁ := by
  refine h.trace_invariant (P := fun is p => ∃ is₁ p₁, FollowedBy _ config is p is₁ p₁) ?_ ?_
  · intro p hstart
    obtain rfl : p = begin config disk log made copied monitored := hstart
    exact ⟨[], _, followed_begin config disk log made copied monitored⟩
  · rintro is p i p' hreach ⟨is₁, p₁, hfollowed⟩ hstep
    obtain ⟨hok, hsame⟩ := step_ok (run_ok hreach) hstep
    by_cases hkeyfile : p'.settings.keyfile = none
    · exact ⟨is₁, p₁, hfollowed.step hstep hkeyfile (hsame hkeyfile)⟩
    · obtain ⟨hfilters, htype⟩ := hok.follows hkeyfile
      exact ⟨is ++ [i], p', hreach.step hstep, .inr hkeyfile, .inl ⟨rfl, rfl⟩, rfl, hfilters,
        htype⟩

/-- In every run of the settings the log follows the last state that has a key file, or
the first state if none has one.  A message is written if its level is asked for there,
by the list of the key file if it has one, and compiled in; where the log goes through
GLib, its default handler has the last word. -/
theorem settings_log (h : (run config disk log made copied monitored).Reaches is p) :
    ∃ is₁ p₁, (run config disk log made copied monitored).Reaches is₁ p₁ ∧
      (is₁ = [] ∨ p₁.settings.keyfile ≠ none) ∧
      ((is₁ = is ∧ p₁ = p) ∨ ∃ i is₂ p₂, is = is₁ ++ i :: is₂ ∧
        (run config disk log made copied monitored).step p₁ i p₂ ∧
        (run config disk log made copied monitored).Through
          (fun p => p.settings.keyfile = none) p₂ is₂ p) ∧
      (∀ funcs level added, added < 4 → (rsuLogHelper funcs config p.log level added = true ↔
        Written funcs config p₁.settings.logType p₁.settings.logLevel level added)) ∧
      ∀ keyfile list, p₁.settings.keyfile = some keyfile → keyfile.logLevel = some list →
        ∀ level, Has p₁.settings.logLevel level ↔ Asks list level := by
  obtain ⟨is₁, p₁, hfollowed⟩ := run_followed h
  refine ⟨is₁, p₁, hfollowed.reached, hfollowed.keyfile, hfollowed.since, ?_, ?_⟩
  · intro funcs level added hadded
    rw [hfollowed.log, ← hfollowed.logType]
    exact hfollowed.filters.writes funcs level hadded
  · intro keyfile list hkeyfile hlist level
    have hlevel := (Values.mk.inj (run_ok hfollowed.reached).values).2.2
    rw [hkeyfile, Option.bind_some, hlist] at hlevel
    rw [hlevel]
    exact has_prvRsuSettingsToLogLevel list

def errorsAndInfos : Disk where
  locFile := some (some { logType := some 1, logLevel := some [1, 5] })

/-- `g_log_default_handler` where the environment asks for nothing more. -/
def terseHandler : GLogFuncs := fun _ _ logLevel =>
  logLevel &&& (LogLevel.error.flag ||| LogLevel.critical.flag ||| LogLevel.warning.flag |||
    LogLevel.message.flag) ≠ 0

/-- Errors are written; GLib drops the infos, and the filter drops the messages. -/
theorem settings_log_errorsAndInfos : ∃ p : Process,
    (run { logLevel := 0x3F } errorsAndInfos {} true true true).Reaches [] p ∧
      rsuLogHelper terseHandler { logLevel := 0x3F } p.log .error 0 = true ∧
      rsuLogHelper terseHandler { logLevel := 0x3F } p.log .info 0 = false ∧
      rsuLogHelper terseHandler { logLevel := 0x3F } p.log .message 0 = false := by
  have hreach : (run { logLevel := 0x3F } errorsAndInfos {} true true true).Reaches []
      (begin { logLevel := 0x3F } errorsAndInfos {} true true true) := .init rfl
  obtain ⟨is₁, p₁, -, -, hlast, hwritten, -⟩ := settings_log hreach
  obtain rfl : p₁ = begin { logLevel := 0x3F } errorsAndInfos {} true true true := by
    rcases hlast with ⟨-, hsame⟩ | ⟨_, _, _, hlonger, -⟩
    · exact hsame
    · simp at hlonger
  refine ⟨_, hreach, (hwritten terseHandler .error 0 (by decide)).mpr
    ⟨by decide, .inr ⟨rfl, .inl (by decide), by decide⟩⟩, ?_, ?_⟩
  · refine Bool.eq_false_iff.mpr fun htrue => ?_
    obtain ⟨-, hsyslog | hglib⟩ := (hwritten terseHandler .info 0 (by decide)).mp htrue
    · exact absurd hsyslog.1 (by decide)
    · exact absurd hglib.2.2 (by decide)
  · refine Bool.eq_false_iff.mpr fun htrue => ?_
    obtain ⟨-, hsyslog | hglib⟩ := (hwritten terseHandler .message 0 (by decide)).mp htrue
    · exact absurd hsyslog.1 (by decide)
    · rcases hglib.2.1 with hasked | hadded
      · exact absurd hasked (by decide)
      · exact absurd rfl hadded.1

/-- Everything is compiled in, and the local file asks for errors only. -/
def errorsOnly : Disk where
  locFile := some (some { logLevel := some [1] })

/-- When the only file is removed, the settings are those of `configure` again, which
ask for everything; the log still writes errors only. -/
theorem settings_log_fileRemoved : ∃ is p,
    (run { logLevel := 0x3F } errorsOnly {} true true true).Reaches is p ∧ p.timers = [] ∧
      p.settings.logLevel = 0x3F ∧
      ∀ funcs, rsuLogHelper funcs { logLevel := 0x3F } p.log .info 0 = false := by
  have hrun : runFrom (stepFn { logLevel := 0x3F })
      [.writeLocal none [.deleted], .monitorEvent, .timeout 1]
      (begin { logLevel := 0x3F } errorsOnly {} true true true) = some
        { begin { logLevel := 0x3F } errorsOnly {} true true true with
          disk := { errorsOnly with locFile := none }
          settings := { monitor := true, logLevel := 0x3F }
          nextSource := 2 } := by decide +kernel
  exact ⟨_, _, reaches_of_run hrun, rfl, rfl, fun _ => rfl⟩

/-! ## Changes of the files -/

def Process.Quiet (p : Process) : Prop :=
  p.timers = [] ∧ ∀ event ∈ p.events, event.reloads = false

instance (p : Process) : Decidable p.Quiet := inferInstanceAs (Decidable (_ ∧ _))

/-- Every change of the local file is told by an event, and the system file changes only
while there is a local one that can be read. -/
def Input.Told (p : Process) : Input → Prop
  | .writeLocal _ events => ∃ event ∈ events, event.reloads = true
  | .writeSystem _ => p.disk.locFile.join ≠ none
  | _ => True

instance (p : Process) : (i : Input) → Decidable (i.Told p)
  | .writeLocal _ events => inferInstanceAs (Decidable (∃ event ∈ events, event.reloads = true))
  | .writeSystem _ => inferInstanceAs (Decidable (p.disk.locFile.join ≠ none))
  | .monitorEvent | .timeout _ => .isTrue trivial

/-- The local file has a path and is monitored, and what was loaded last is still what
would be loaded, unless a reload is to come. -/
structure UpToDate (p : Process) : Prop where
  path : p.disk.locPath = true
  monitor : p.settings.monitor = true
  keyfile : p.Quiet → p.settings.keyfile = p.disk.load

theorem UpToDate.monitorKeyfileCb {event : GFileMonitorEvent} {rest : List GFileMonitorEvent}
    (h : UpToDate p) (hevents : p.events = event :: rest) :
    UpToDate (prvRsuSettingsMonitorKeyfileCb event { p with events := rest }) := by
  unfold prvRsuSettingsMonitorKeyfileCb
  split
  · exact ⟨h.path, h.monitor, fun hquiet => absurd hquiet.1 (by simp)⟩
  next hother =>
    refine ⟨h.path, h.monitor, fun hquiet => h.keyfile ⟨hquiet.1, ?_⟩⟩
    rw [hevents]
    exact List.forall_mem_cons.mpr ⟨by simpa using hother, hquiet.2⟩

theorem step_upToDate (h : UpToDate p) (htold : i.Told p)
    (hstep : stepFn config p i = some p') : UpToDate p' := by
  cases i with
  | writeLocal file events =>
      obtain rfl := Option.some.inj hstep
      obtain ⟨event, hevent, hreloads⟩ := htold
      refine ⟨h.path, h.monitor, fun hquiet => ?_⟩
      have hevents : event ∈ if p.settings.monitor then p.events ++ events else p.events := by
        rw [if_pos h.monitor]
        exact List.mem_append_right _ hevent
      rw [hquiet.2 event hevents] at hreloads
      cases hreloads
  | writeSystem file =>
      obtain rfl := Option.some.inj hstep
      refine ⟨h.path, h.monitor, fun hquiet => (h.keyfile hquiet).trans ?_⟩
      obtain ⟨keyfile, hkeyfile⟩ := Option.ne_none_iff_exists'.mp htold
      simp only [Disk.load, prvRsuSettingsLoadKeyfile, h.path, if_true, hkeyfile]
  | monitorEvent =>
      rw [stepFn] at hstep
      split at hstep
      · cases hstep
      next event rest hevents =>
        obtain rfl := Option.some.inj hstep
        exact h.monitorKeyfileCb hevents
  | timeout id =>
      rw [stepFn] at hstep
      split at hstep
      next hid =>
        obtain rfl := Option.some.inj hstep
        have hload := loaded_prvRsuSettingsReload config
          { p with timers := p.timers.filter fun id' => id' ≠ id }
        have hdisk : (prvRsuSettingsReload config
          { p with timers := p.timers.filter fun id' => id' ≠ id }).disk = p.disk := hload.rest.1
        refine ⟨?_, hload.monitor.trans h.monitor, fun _ => ?_⟩
        · exact (congrArg Disk.locPath hdisk).trans h.path
        · exact hload.keyfile.trans (congrArg Disk.load hdisk).symm
      · cases hstep

/-- For every such run of a service that monitors its local file: at most one timer is
pending, and when none is, nor an event, the settings are those of the file that is
there. -/
theorem settings_follow (hpath : disk.locPath = true)
    (h : ((run config disk log made copied true).restrict Input.Told).Reaches is p) :
    p.timers.length ≤ 1 ∧ (p.Quiet → p.settings.keyfile = p.disk.load ∧
      p.settings.values = config.values p.disk.load) := by
  have hok : ProcessOk config log p := run_ok h.of_restrict
  have hupToDate : UpToDate p := by
    refine h.invariant (I := UpToDate) ?_ ?_
    · intro p hstart
      obtain rfl : p = begin config disk log made copied true := hstart
      obtain ⟨p, hload, -, -, -, hloc, hmonitor, -⟩ :=
        loaded_begin config disk log made copied true
      have hdisk := hload.rest.1
      refine ⟨?_, ?_, fun _ => ?_⟩
      · rw [hdisk, hloc, hpath]
      · rw [hload.monitor, hmonitor, hpath]
        rfl
      · rw [hload.keyfile, hdisk]
    · exact fun p i p' hupToDate hstep => step_upToDate hupToDate hstep.1 hstep.2
  refine ⟨?_, fun hquiet => ?_⟩
  · rw [hok.timers]
    split
    · exact Nat.zero_le 1
    · exact Nat.le_refl 1
  · have hkeyfile := hupToDate.keyfile hquiet
    exact ⟨hkeyfile, by rw [← hkeyfile]; exact hok.values⟩

/-- The file is written again, and the settings are those of the new one. -/
theorem settings_follow_rewritten : ∃ p : Process, p.timers.length ≤ 1 ∧
    p.settings.keyfile = some { neverQuit := some true } := by
  have hrun : ((runFrom (guarded (fun p i => i.Told p) (stepFn {}))
      [.writeLocal (some (some { neverQuit := some true })) [.changed, .changesDoneHint],
        .monitorEvent, .monitorEvent, .timeout 2] (begin {} errorsOnly {} true true true)).any
      fun p => decide (p.Quiet ∧ p.disk.load = some { neverQuit := some true })) = true := by
    decide +kernel
  obtain ⟨p, hreach, hquiet, hload⟩ := reaches_of_guarded _ hrun
  obtain ⟨htimers, hfollows⟩ := settings_follow rfl hreach
  exact ⟨p, htimers, (hfollows hquiet).1.trans hload⟩

/-- After any run the log mask of the process and the default handler of GLib are those
of before. -/
theorem log_restored (hmask : log.syslogMask ≠ 0)
    (h : (run config disk log made copied monitored).Reaches is p) :
    (finish p).log.syslogMask = log.syslogMask ∧ (finish p).log.handler = log.handler := by
  have hok := run_ok h
  simp [finish, rsuSettingsDelete, rsuLogFinalize, hok.oldMask, hok.oldHandler, hmask]

/-- The whole life of a process with a log that writes everything. -/
theorem log_restored_fileRemoved : ∃ p : Process,
    (finish p).log.syslogMask = 0xFF ∧ (finish p).log.handler = .other 0 := by
  obtain ⟨is, p, hreach, -⟩ := settings_log_fileRemoved
  exact ⟨p, log_restored (by decide) hreach⟩

end RendererService.Settings
