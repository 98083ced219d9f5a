import RendererService.Lib.Transition
import RendererService.Model.Log

/-!
# settings.c

The key file of the service, which is read at the start and again a second after the
last change of the local one.  A file is known by what GLib reads from it.
-/

namespace RendererService.Settings

/-! ## Files -/

/-- A `GKeyFile`, as what `g_key_file_get_boolean`, `g_key_file_get_integer` and
`g_key_file_get_integer_list` return for the three keys; nothing stands for an error. -/
structure KeyFile where
  neverQuit : Option Bool := none
  logType : Option Int := none
  logLevel : Option (List Int) := none
deriving DecidableEq, Repr

/-- A file, if it exists; the key file is missing where the file cannot be parsed. -/
abbrev File := Option (Option KeyFile)

/-- The two paths, which are NULL where the directory has no name, and what is there. -/
structure Disk where
  sysPath : Bool := true
  locPath : Bool := true
  sysFile : File := none
  locFile : File := none
  locDir : Bool := true
deriving DecidableEq, Repr

/-- `prv_rsu_settings_load_keyfile` of the system file or of the local one. -/
def prvRsuSettingsLoadKeyfile (path : Bool) (file : File) : Option KeyFile :=
  if path then file.join else none

/-- `prv_rsu_settings_check_local_keyfile`.  `made` and `copied` say whether the
directory can be made and the system file can be copied. -/
def prvRsuSettingsCheckLocalKeyfile (made copied : Bool) (disk : Disk) : Disk :=
  if disk.locFile.isSome ∨ ¬disk.sysPath then disk
  else if ¬disk.locDir ∧ ¬made then disk
  else
    let disk := { disk with locDir := true }
    if disk.sysFile.isSome ∧ copied then { disk with locFile := disk.sysFile } else disk

/-! ## Keys -/

/-- `log_level_array`, whose entries are defined by `configure`. -/
def logLevelArray : List Nat := [0x00, 0x01, 0x02, 0x04, 0x08, 0x10, 0x20, 0x13, 0x3F]

/-- The loop over the list, from a value on. -/
def toLogLevel (logLevelValue : Nat) : List Int → Nat
  | [] => logLevelValue
  | level :: rest =>
      if 0 < level ∧ level < 7 then
        toLogLevel (logLevelValue ||| logLevelArray.getD level.toNat 0) rest
      else if level = 0 ∨ level = 7 ∨ level = 8 then logLevelArray.getD level.toNat 0
      else toLogLevel logLevelValue rest

def prvRsuSettingsToLogLevel (intList : List Int) : Nat := toLogLevel 0 intList

def prvRsuSettingsToLogType (type : Int) : RsuLogType :=
  if type = 0 then .syslog else if type = 1 then .glib else .syslog

/-- `rsu_settings_context_t`; an id is kept as the fact that it is not 0, but for that of
the timer. -/
structure RsuSettingsContext where
  keyfile : Option KeyFile := none
  monitor : Bool := false
  evId : Nat := 0
  neverQuit : Bool := false
  logType : RsuLogType := .syslog
  logLevel : Nat := 0
deriving DecidableEq, Repr

def prvRsuSettingsReadKeys (keyfile : KeyFile) (settings : RsuSettingsContext) :
    RsuSettingsContext :=
  let settings :=
    match keyfile.neverQuit with
    | some value => { settings with neverQuit := value }
    | none => settings
  let settings :=
    match keyfile.logType with
    | some value => { settings with logType := prvRsuSettingsToLogType value }
    | none => settings
  match keyfile.logLevel with
  | some list => { settings with logLevel := prvRsuSettingsToLogLevel list }
  | none => settings

def prvRsuSettingsInitDefault (config : Config) (settings : RsuSettingsContext) :
    RsuSettingsContext :=
  { settings with
    neverQuit := config.neverQuit, logType := config.logType, logLevel := config.logLevel }

/-! ## The process -/

inductive GFileMonitorEvent
  | changed
  | changesDoneHint
  | deleted
  | created
  | attributeChanged
  | preUnmount
  | unmounted
  | moved
deriving DecidableEq, Repr

/-- The settings, the log, the files, and what is pending on the main loop: the events
of the monitor and the timers of `prv_rsu_settings_monitor_timout_cb`. -/
structure Process where
  disk : Disk := {}
  settings : RsuSettingsContext := {}
  log : LogState := {}
  events : List GFileMonitorEvent := []
  timers : List Nat := []
  nextSource : Nat := 1
deriving DecidableEq, Repr

def Disk.load (disk : Disk) : Option KeyFile :=
  match prvRsuSettingsLoadKeyfile disk.locPath disk.locFile with
  | some keyfile => some keyfile
  | none => prvRsuSettingsLoadKeyfile disk.sysPath disk.sysFile

def prvRsuSettingsKeyfileInit (config : Config) (p : Process) : Process :=
  let keyfile := p.disk.load
  let p := { p with settings := { p.settings with keyfile := keyfile } }
  match keyfile with
  | some keyfile =>
      let settings := prvRsuSettingsReadKeys keyfile p.settings
      { p with
        settings := settings
        log := rsuLogUpdateTypeLevel config settings.logType settings.logLevel p.log }
  | none => p

def prvRsuSettingsKeyfileFinalize (settings : RsuSettingsContext) : RsuSettingsContext :=
  { settings with keyfile := none }

def prvRsuSettingsReload (config : Config) (p : Process) : Process :=
  let settings := prvRsuSettingsKeyfileFinalize p.settings
  let p := { p with settings := prvRsuSettingsInitDefault config settings }
  if p.disk.sysPath ∨ p.disk.locPath then prvRsuSettingsKeyfileInit config p else p

/-- The timer has fired. -/
def prvRsuSettingsMonitorTimoutCb (config : Config) (p : Process) : Process :=
  let p := prvRsuSettingsReload config p
  { p with settings := { p.settings with evId := 0 } }

def GFileMonitorEvent.reloads : GFileMonitorEvent → Bool
  | .changed | .changesDoneHint | .deleted | .created | .moved => true
  | _ => false

def prvRsuSettingsMonitorKeyfileCb (eventType : GFileMonitorEvent) (p : Process) : Process :=
  if eventType.reloads then
    let timers :=
      if p.settings.evId ≠ 0 then p.timers.filter fun id => id ≠ p.settings.evId else p.timers
    { p with
      settings := { p.settings with evId := p.nextSource }
      timers := timers ++ [p.nextSource]
      nextSource := p.nextSource + 1 }
  else p

/-- `monitored` says whether `g_file_monitor_file` returns a monitor. -/
def prvRsuSettingsMonitorLocalKeyfile (monitored : Bool) (settings : RsuSettingsContext) :
    RsuSettingsContext :=
  if monitored then { settings with monitor := true } else settings

def rsuSettingsNew (config : Config) (made copied monitored : Bool) (p : Process) : Process :=
  let p := { p with settings := prvRsuSettingsInitDefault config {} }
  let p :=
    if p.disk.locPath then
      { p with
        disk := prvRsuSettingsCheckLocalKeyfile made copied p.disk
        settings := prvRsuSettingsMonitorLocalKeyfile monitored p.settings }
    else p
  if p.disk.sysPath ∨ p.disk.locPath then prvRsuSettingsKeyfileInit config p else p

/-- What `main` does before the main loop. -/
def begin (config : Config) (disk : Disk) (log : LogState) (made copied monitored : Bool) :
    Process :=
  rsuSettingsNew config made copied monitored { disk := disk, log := rsuLogInit config log }

/-- What is left of the settings is freed; a pending timer stays. -/
def rsuSettingsDelete (p : Process) : Process := { p with settings := {}, events := [] }

/-- What `main` does after the main loop. -/
def finish (p : Process) : Process :=
  let p := rsuSettingsDelete p
  { p with log := rsuLogFinalize p.log }

/-- What may happen while the main loop runs.  A change of the local file leads to
events, if it is monitored. -/
inductive Input
  | writeLocal (file : File) (events : List GFileMonitorEvent)
  | writeSystem (file : File)
  | monitorEvent
  | timeout (id : Nat)

def stepFn (config : Config) (p : Process) : Input → Option Process
  | .writeLocal file events => some
      { p with
        disk := { p.disk with locFile := file }
        events := if p.settings.monitor then p.events ++ events else p.events }
  | .writeSystem file => some { p with disk := { p.disk with sysFile := file } }
  | .monitorEvent =>
      match p.events with
      | [] => none
      | event :: rest => some (prvRsuSettingsMonitorKeyfileCb event { p with events := rest })
  | .timeout id =>
      if id ∈ p.timers then
        some (prvRsuSettingsMonitorTimoutCb config
          { p with timers := p.timers.filter fun id' => id' ≠ id })
      else none

/-- The runs of the settings from the start of the main loop on. -/
def system (config : Config) (p₀ : Process) : Transition.System Process Input :=
  Transition.System.ofFun p₀ (stepFn config)

end RendererService.Settings
