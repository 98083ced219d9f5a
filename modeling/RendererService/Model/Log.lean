import Mathlib.Data.Nat.Bitwise

/-!
# log.c

The filter that decides which messages are written, to the system log or through
GLib.  Masks and flags are the bit sets of the C headers.
-/

namespace RendererService.Settings

/-! ## The headers -/

inductive RsuLogType
  | syslog
  | glib
  | file
deriving DecidableEq, Repr

/-- What `configure` decides: `RSU_NEVER_QUIT`, `RSU_LOG_TYPE` and `RSU_LOG_LEVEL`. -/
structure Config where
  neverQuit : Bool := false
  logType : RsuLogType := .syslog
  logLevel : Nat := 0x13

inductive LogLevel
  | error
  | critical
  | warning
  | message
  | info
  | debug
deriving DecidableEq, Repr

/-- `RSU_LOG_LEVEL_ERROR` and its siblings. -/
def LogLevel.value : LogLevel → Nat
  | .error => 0x01
  | .critical => 0x02
  | .warning => 0x04
  | .message => 0x08
  | .info => 0x10
  | .debug => 0x20

/-- `LOG_ERR`, `LOG_CRIT`, `LOG_WARNING`, `LOG_NOTICE`, `LOG_INFO` and `LOG_DEBUG`. -/
def LogLevel.priority : LogLevel → Nat
  | .error => 3
  | .critical => 2
  | .warning => 4
  | .message => 5
  | .info => 6
  | .debug => 7

/-- `G_LOG_LEVEL_ERROR` and its siblings. -/
def LogLevel.flag : LogLevel → Nat
  | .error => 1 <<< 2
  | .critical => 1 <<< 3
  | .warning => 1 <<< 4
  | .message => 1 <<< 5
  | .info => 1 <<< 6
  | .debug => 1 <<< 7

def gLogFlagRecursion : Nat := 1 <<< 0
def gLogFlagFatal : Nat := 1 <<< 1

def gLogDomain : String := "RSU"

def logMask (priority : Nat) : Nat := 1 <<< priority

/-! ## Masks -/

/-- The two outputs of `prv_rsu_log_get_mf`. -/
structure MaskFlags where
  mask : Nat := 0
  flags : Nat := 0
deriving DecidableEq, Repr

/-- One block of `prv_rsu_log_get_mf`. -/
def MaskFlags.note (logLevel : Nat) (level : LogLevel) (mf : MaskFlags) : MaskFlags :=
  if logLevel &&& level.value ≠ 0 then
    { mask := mf.mask ||| logMask level.priority, flags := mf.flags ||| level.flag }
  else mf

def prvRsuLogGetMf (logLevel : Nat) : MaskFlags :=
  let mf : MaskFlags := {}
  let mf := mf.note logLevel .error
  let mf := mf.note logLevel .critical
  let mf := mf.note logLevel .warning
  let mf := mf.note logLevel .message
  let mf := mf.note logLevel .info
  let mf := mf.note logLevel .debug
  if mf.flags ≠ 0 then { mf with flags := mf.flags ||| (gLogFlagRecursion ||| gLogFlagFatal) }
  else mf

/-! ## The state -/

/-- A `GLogFunc`: the one of this file, or another one; 0 is `g_log_default_handler`. -/
inductive GLogFunc
  | prvRsuLogHandler
  | other (id : Nat)
deriving DecidableEq, Repr

/-- Whether another `GLogFunc` writes a message of a domain and a level.  The default
handler of GLib asks the environment for messages below `G_LOG_LEVEL_MESSAGE`. -/
abbrev GLogFuncs := Nat → String → Nat → Bool

structure RsuLog where
  oldMask : Nat := 0
  mask : Nat := 0
  logType : RsuLogType := .syslog
  flags : Nat := 0
  oldHandler : Option GLogFunc := none
deriving DecidableEq, Repr

/-- `s_log_context`, the log mask of the process and the default handler of GLib. -/
structure LogState where
  context : RsuLog := {}
  syslogMask : Nat := 0xFF
  handler : GLogFunc := .other 0
deriving DecidableEq, Repr

/-- `setlogmask`: a mask that is 0 changes nothing. -/
def setLogMask (mask : Nat) (s : LogState) : LogState :=
  if mask ≠ 0 then { s with syslogMask := mask } else s

def prvRsuLogSetFlagsFromParam (config : Config) (context : RsuLog) : RsuLog :=
  let mf := prvRsuLogGetMf config.logLevel
  { context with mask := mf.mask, flags := mf.flags, logType := config.logType }

/-- The messages about the version are not recorded. -/
def rsuLogInit (config : Config) (s : LogState) : LogState :=
  let s := { s with context := prvRsuLogSetFlagsFromParam config {} }
  let old := s.syslogMask
  let s := setLogMask (logMask LogLevel.info.priority) s
  let s := setLogMask s.context.mask s
  { s with
    context := { s.context with oldMask := old, oldHandler := some s.handler }
    handler := .prvRsuLogHandler }

/-- What is read from the configuration file is cut down to what was compiled in. -/
def rsuLogUpdateTypeLevel (config : Config) (logType : RsuLogType) (logLevel : Nat)
    (s : LogState) : LogState :=
  let mf := prvRsuLogGetMf logLevel
  let compile := prvRsuLogGetMf config.logLevel
  let mask := mf.mask &&& compile.mask
  let flags := mf.flags &&& compile.flags
  setLogMask mask
    { s with context := { s.context with logType := logType, mask := mask, flags := flags } }

def rsuLogFinalize (s : LogState) : LogState :=
  let s := setLogMask (logMask LogLevel.info.priority) s
  let s := { s with handler := s.context.oldHandler.getD s.handler }
  let s := setLogMask s.context.oldMask s
  { s with context := {} }

/-! ## Messages -/

section Messages

variable (funcs : GLogFuncs)

/-- Whether `prv_rsu_log_handler` writes the message: it hands on to
`g_log_default_handler`. -/
def prvRsuLogHandler (context : RsuLog) (logDomain : String) (logLevel : Nat) : Bool :=
  logDomain = gLogDomain ∧ context.flags &&& logLevel ≠ 0 ∧ funcs 0 logDomain logLevel

/-- Whether `g_logv` has the message written.  `added` is what GLib adds to the level:
`G_LOG_FLAG_FATAL` for a fatal level and `G_LOG_FLAG_RECURSION` for a message within a
message. -/
def gLogv (s : LogState) (logDomain : String) (logLevel added : Nat) : Bool :=
  match s.handler with
  | .prvRsuLogHandler => prvRsuLogHandler funcs s.context logDomain (logLevel ||| added)
  | .other id => funcs id logDomain (logLevel ||| added)

/-- Whether `vsyslog` writes a message. -/
def vsyslog (s : LogState) (priority : Nat) : Bool := s.syslogMask &&& logMask priority ≠ 0

/-- Whether `rsu_log_trace` writes the message. -/
def rsuLogTrace (s : LogState) (priority flags added : Nat) : Bool :=
  match s.context.logType with
  | .syslog => s.context.mask ≠ 0 ∧ vsyslog s priority
  | .glib => s.context.flags ≠ 0 ∧ gLogv funcs s gLogDomain flags added
  | .file => false

/-- `RSU_LOG_ERROR` and its siblings, which are empty for a level that is not compiled
in. -/
def rsuLogHelper (config : Config) (s : LogState) (level : LogLevel) (added : Nat) : Bool :=
  config.logLevel &&& level.value ≠ 0 ∧ rsuLogTrace funcs s level.priority level.flag added

end Messages

end RendererService.Settings
