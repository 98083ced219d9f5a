import Mathlib.Data.Rat.Floor
import RendererService.Model.Task

/-!
# Property values and the strings they are read from

The functions of device.c that turn the strings of UPnP into property values and
positions into strings, and the functions of the C library and of GLib that they
call.  A double is an exact rational number.
-/

namespace RendererService

/-! ## The C library and GLib -/

/-- `g_strsplit (string, delimiter, 0)` with a delimiter of one character: the
empty string gives the empty vector. -/
def gStrsplit (string : String) (delimiter : Char) : List String :=
  if string.toList = [] then [] else (string.toList.splitOn delimiter).map String.ofList

def gAsciiStrdown (string : String) : String := String.ofList (string.toList.map Char.toLower)

/-- `isspace` in the C locale. -/
def isSpace (c : Char) : Bool := c = ' ' ∨ (9 ≤ c.toNat ∧ c.toNat ≤ 13)

def longMax : Int := 2 ^ 63 - 1
def longMin : Int := -2 ^ 63

/-- The value of the digits that a string begins with. -/
def digitsValue (s : List Char) : Nat :=
  (s.takeWhile Char.isDigit).foldl (fun n c => 10 * n + (c.toNat - '0'.toNat)) 0

/-- `strtol (s, NULL, 10)`. -/
def strtol (s : List Char) : Int :=
  let value : Int :=
    match s.dropWhile isSpace with
    | '-' :: digits => -(digitsValue digits : Int)
    | '+' :: digits => digitsValue digits
    | digits => digitsValue digits
  max longMin (min value longMax)

/-- `atoi`, which is `strtol` converted to an `int`. -/
def atoi (s : String) : Int := (strtol s.toList).bmod (2 ^ 32)

/-- `round`, which takes halves away from zero. -/
def roundAway (x : ℚ) : Int := if 0 ≤ x then (x + 1 / 2).floor else (x - 1 / 2).ceil

/-- A double converted to a `guint`.  What lies outside the range is undefined. -/
def guintOfDouble (x : ℚ) : Option UInt32 :=
  if -1 < x ∧ x < 2 ^ 32 then some (UInt32.ofNat x.floor.toNat) else none

/-- A double printed with "%.2f". -/
def printTwoDecimals (x : ℚ) : String :=
  let scaled := |x| * 100
  let below := scaled.floor.toNat
  let rest := scaled - below
  let hundredths :=
    if rest < 1 / 2 ∨ (rest = 1 / 2 ∧ below % 2 = 0) then below else below + 1
  let decimals := toString (hundredths % 100)
  (if x < 0 then "-" else "") ++ toString (hundredths / 100) ++ "." ++
    (if hundredths % 100 < 10 then "0" ++ decimals else decimals)

/-- An `unsigned int` printed with "%02u". -/
def printTwoDigits (n : Nat) : String := if n < 10 then "0" ++ toString n else toString n

/-! ## Values -/

/-- A value in the Metadata dictionary. -/
inductive MetaValue
  | int32 (n : Int)
  | int64 (n : Int)
  | string (s : String)
  | strings (l : List String)
deriving DecidableEq, Repr

/-- A `GVariant` of the property tables. -/
inductive Variant
  | boolean (b : Bool)
  | int64 (n : Int)
  | uint32 (n : UInt32)
  | double (x : ℚ)
  | string (s : String)
  | strings (l : List String)
  | doubles (l : List ℚ)
  | metadata (entries : List (String × MetaValue))
deriving DecidableEq, Repr

/-! ## States, speeds and durations -/

def prvMapTransportState (upnpState : String) : String :=
  if upnpState = "PLAYING" then "Playing"
  else if upnpState = "PAUSED_PLAYBACK" ∨ upnpState = "PAUSED_RECORDING" then "Paused"
  else "Stopped"

def prvMapTransportSpeed (upnpSpeed : String) : ℚ :=
  match (gStrsplit upnpSpeed '/').map gStrstrip with
  | [num] => atoi num
  | [num, dom] => if atoi dom = 0 then 1 else (atoi num : ℚ) / atoi dom
  | _ => 1

/-- An `int` times an `unsigned int` is computed modulo `2 ^ 32`. -/
def durationField (part : String) (i : Nat) : Int := atoi (gStrstrip part) * i % 2 ^ 32

/-- The loop over the three fields begins with the seconds. -/
def prvDurationToInt64 (duration : String) : Int :=
  match gStrsplit duration ':' with
  | [hours, minutes, seconds] =>
      (durationField seconds 1 + durationField minutes 60 + durationField hours 3600) * 1000000
  | _ => 0

/-- The negation of a `gint64`.  C leaves it undefined for the smallest one, where
it is `overflow`. -/
def negateInt64 (overflow n : Int) : Int := if n = -2 ^ 63 then overflow else -n

/-- The quotient is converted to an `unsigned int`. -/
def uintSeconds (microSeconds : Int) : Nat := (microSeconds.tdiv 1000000 % 2 ^ 32).toNat

def prvInt64ToDuration (overflow microSeconds : Int) : String :=
  let negative := microSeconds < 0
  let seconds := uintSeconds (if negative then negateInt64 overflow microSeconds else microSeconds)
  (if negative then "-" else "") ++ printTwoDigits (seconds / 3600) ++ ":" ++
    printTwoDigits (seconds / 60 % 60) ++ ":" ++ printTwoDigits (seconds % 60)

/-! ## Seek -/

/-- The arguments of the action Seek. -/
structure SeekArguments where
  instanceId : Int := 0
  unit : String
  target : String
deriving DecidableEq, Repr

/-- What `prv_device_set_position` sends.  `overflow` is the one of
`negateInt64`. -/
def setPositionArguments (overflow : Int) (posType : String) (position : Int)
    (trackNumber : Nat) : SeekArguments where
  unit := posType
  target :=
    if posType = "TRACK_NR" then toString trackNumber else prvInt64ToDuration overflow position

/-- What the three commands send for a task.  The field of `ut.seek` that a task
does not set is 0. -/
def TaskType.seekArguments (overflow : Int) : TaskType → Option SeekArguments
  | .seek position => some (setPositionArguments overflow "REL_TIME" position 0)
  | .setPosition position => some (setPositionArguments overflow "ABS_TIME" position 0)
  | .gotoTrack trackNumber => some (setPositionArguments overflow "TRACK_NR" 0 trackNumber)
  | _ => none

/-! ## Rational numbers -/

def prvRationalGetNumerator (r : String) : Int := strtol r.toList

def prvRationalGetDenominator (r : String) : Int :=
  match r.toList.dropWhile (· ≠ '/') with
  | [] => 1
  | _ :: denominator => strtol denominator

def prvRationalToDouble (r : String) (precision : ℚ) : ℚ :=
  let p := prvRationalGetNumerator r
  let q := prvRationalGetDenominator r
  if p = 0 ∨ q = 0 then 0
  else if precision ≠ 0 then roundAway ((p : ℚ) / q / precision) * precision
  else (p : ℚ) / q

def prvRationalIsInvalid (val : String) : Bool :=
  prvRationalGetNumerator val = 0 ∨ prvRationalGetDenominator val = 0

/-- The difference of two `long` products, returned as a `gint`. -/
def prvCompareRationals (a b : String) : Int :=
  (prvRationalGetNumerator a * prvRationalGetDenominator b -
    prvRationalGetNumerator b * prvRationalGetDenominator a).bmod (2 ^ 32)

end RendererService
