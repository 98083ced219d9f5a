import RendererService.Model.World

/-!
# task.c and async.c

The constructors of client tasks, the four ways a task answers its D-Bus
invocation, and the cancellation of asynchronous tasks.
-/

namespace RendererService

/-! ## Constructors -/

def gAsciiIsSpace (c : Char) : Bool :=
  c = ' ' ∨ c = '\t' ∨ c = '\n' ∨ c = '\r' ∨ c.toNat = 12

def gStrstrip (s : String) : String :=
  String.ofList
    ((s.toList.dropWhile gAsciiIsSpace).reverse.dropWhile gAsciiIsSpace).reverse

def rsuTaskGetVersionNew (invocation : Nat) : ClientTask where
  type := .getVersion
  invocation := some invocation
  resultFormat := some "(@s)"
  result := some .version
  synchronous := true

def rsuTaskGetServersNew (invocation : Nat) : ClientTask where
  type := .getServers
  invocation := some invocation
  resultFormat := some "(@as)"
  synchronous := true

def rsuTaskRaiseNew (invocation : Nat) : ClientTask where
  type := .raise
  invocation := some invocation
  synchronous := true

def rsuTaskQuitNew (invocation : Nat) : ClientTask where
  type := .quit
  invocation := some invocation
  synchronous := true

/-- The path is a D-Bus object path, which has no blanks to strip. -/
def prvDeviceTaskNew (type : TaskType) (invocation : Nat) (path : String)
    (resultFormat : Option String) : ClientTask where
  type := type
  invocation := some invocation
  resultFormat := resultFormat
  path := path

def rsuTaskGetPropNew (invocation : Nat) (path interfaceName propName : String) :
    ClientTask :=
  prvDeviceTaskNew (.getProp (gStrstrip interfaceName) (gStrstrip propName))
    invocation path (some "(v)")

def rsuTaskGetPropsNew (invocation : Nat) (path interfaceName : String) : ClientTask :=
  prvDeviceTaskNew (.getAllProps (gStrstrip interfaceName)) invocation path
    (some "(@a\x7bsv\x7d)")

def rsuTaskSetPropNew (invocation : Nat) (path interfaceName propName : String) :
    ClientTask :=
  prvDeviceTaskNew (.setProp (gStrstrip interfaceName) (gStrstrip propName))
    invocation path none

def rsuTaskPlayNew (invocation : Nat) (path : String) : ClientTask :=
  prvDeviceTaskNew .play invocation path none

def rsuTaskPauseNew (invocation : Nat) (path : String) : ClientTask :=
  prvDeviceTaskNew .pause invocation path none

def rsuTaskPlayPauseNew (invocation : Nat) (path : String) : ClientTask :=
  prvDeviceTaskNew .playPause invocation path none

def rsuTaskStopNew (invocation : Nat) (path : String) : ClientTask :=
  prvDeviceTaskNew .stop invocation path none

def rsuTaskNextNew (invocation : Nat) (path : String) : ClientTask :=
  prvDeviceTaskNew .next invocation path none

def rsuTaskPreviousNew (invocation : Nat) (path : String) : ClientTask :=
  prvDeviceTaskNew .previous invocation path none

def rsuTaskSeekNew (invocation : Nat) (path : String) (position : Int) : ClientTask :=
  prvDeviceTaskNew (.seek position) invocation path none

def rsuTaskSetPositionNew (invocation : Nat) (path : String) (position : Int) :
    ClientTask :=
  prvDeviceTaskNew (.setPosition position) invocation path none

def rsuTaskGotoTrackNew (invocation : Nat) (path : String) (trackNumber : Nat) :
    ClientTask :=
  prvDeviceTaskNew (.gotoTrack trackNumber) invocation path none

def rsuTaskOpenUriNew (invocation : Nat) (path uri : String) : ClientTask :=
  prvDeviceTaskNew (.openUri (gStrstrip uri)) invocation path none

def rsuTaskHostUriNew (invocation : Nat) (path uri client : String) : ClientTask :=
  prvDeviceTaskNew (.hostUri (gStrstrip uri) client) invocation path (some "(@s)")

def rsuTaskRemoveUriNew (invocation : Nat) (path uri client : String) : ClientTask :=
  prvDeviceTaskNew (.removeUri (gStrstrip uri) client) invocation path none

/-! ## async.c -/

/-- The error of a cancelled operation. -/
def operationCancelled : GError := ⟨.cancelled, "Operation cancelled."⟩

def rsuAsyncTaskCancelled (a : TaskAtom) (w : World) : World :=
  w.withClient a fun t =>
    let w :=
      if (w.gupnp.weak t.proxy).isSome then gupnpServiceProxyCancelAction t.action w
      else w
    let w := w.modifyClient a fun t =>
      { t with error := t.error <|> some operationCancelled }
    w.idleAddComplete a

/-- `g_cancellable_cancel`: the handlers run on the first call only. -/
def gCancellableCancel (a : TaskAtom) (c : Cancellable) (w : World) : World :=
  if c.cancelled then w
  else
    let w := w.modifyClient a fun t =>
      { t with cancellable := some { c with cancelled := true } }
    if c.connected then rsuAsyncTaskCancelled a w else w

def rsuAsyncTaskCancel (a : TaskAtom) (w : World) : World :=
  w.withClient a fun t =>
    match t.cancellable with
    | some c => gCancellableCancel a c w
    | none => w

/-! ## Answering the invocation -/

/-- `if (task->invocation) ... task->invocation = NULL`, shared by the functions
that answer a task which stays alive. -/
def answerTask (a : TaskAtom) (reply : ClientTask → Reply) (w : World) : World :=
  w.withClient a fun t =>
    match t.invocation with
    | some invocation =>
        (w.emit (.answered invocation (reply t))).setTask a
          (some (.client { t with invocation := none }))
    | none => w

def rsuTaskComplete (a : TaskAtom) (w : World) : World :=
  answerTask a (fun t => .value (if t.resultFormat.isSome then t.result else none)) w

def rsuTaskFail (a : TaskAtom) (error : GError) (w : World) : World :=
  answerTask a (fun _ => .error error) w

def rsuTaskCancel (a : TaskAtom) (w : World) : World :=
  w.withClient a fun t =>
    let w := answerTask a (fun _ => .error operationCancelled) w
    if t.synchronous then w else rsuAsyncTaskCancel a w

def rsuTaskDelete (a : TaskAtom) (w : World) : World :=
  w.withClient a fun t =>
    let w :=
      match t.invocation with
      | some invocation =>
          w.emit (.answered invocation
            (.error ⟨.died, "Unable to complete command."⟩))
      | none => w
    w.setTask a none

end RendererService
