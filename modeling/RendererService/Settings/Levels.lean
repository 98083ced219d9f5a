import Mathlib.Tactic.IntervalCases
import RendererService.Model.Settings

/-!
# Levels

The list of levels in the key file, the masks that are made of it, and the messages
that pass them.
-/

namespace RendererService.Settings

variable {config : Config} {s : LogState} {level : LogLevel} {logLevel n m added : Nat}

/-! ## Bits -/

theorem and_ne_zero_iff : n &&& m ≠ 0 ↔ ∃ i, n.testBit i = true ∧ m.testBit i = true := by
  constructor
  · intro hne
    obtain ⟨i, hi⟩ := Nat.exists_testBit_of_ne_zero hne
    rw [Nat.testBit_and, Bool.and_eq_true] at hi
    exact ⟨i, hi⟩
  · rintro ⟨i, hn, hm⟩ hzero
    have hbit : (n &&& m).testBit i = true := by rw [Nat.testBit_and, hn, hm, Bool.and_self]
    rw [hzero, Nat.zero_testBit] at hbit
    cases hbit

def LogLevel.bit : LogLevel → Nat
  | .error => 0
  | .critical => 1
  | .warning => 2
  | .message => 3
  | .info => 4
  | .debug => 5

abbrev Has (logLevel : Nat) (level : LogLevel) : Prop := logLevel.testBit level.bit = true

theorem has_or : Has (n ||| m) level ↔ Has n level ∨ Has m level := by
  rw [Has, Nat.testBit_or, Bool.or_eq_true]

theorem value_ne_zero_iff : logLevel &&& level.value ≠ 0 ↔ Has logLevel level := by
  have hvalue : level.value = 2 ^ level.bit := by cases level <;> rfl
  rw [hvalue, Nat.and_two_pow, Has]
  cases logLevel.testBit level.bit with
  | false => simp
  | true => simp

theorem note_eq (logLevel : Nat) (level : LogLevel) (mf : MaskFlags) :
    mf.note logLevel level =
      if logLevel.testBit level.bit then
        ⟨mf.mask ||| logMask level.priority, mf.flags ||| level.flag⟩
      else mf := by
  unfold MaskFlags.note
  by_cases hhas : Has logLevel level
  · rw [if_pos (value_ne_zero_iff.mpr hhas), if_pos hhas]
  · rw [if_neg (mt value_ne_zero_iff.mp hhas), if_neg hhas]

/-! ## The list -/

abbrev IsSingle (number : Int) : Prop := number = 0 ∨ number = 7 ∨ number = 8

def LogLevel.number (level : LogLevel) : Int := level.bit + 1

/-- The list asks for the level: by its first single value, or else by the number of
the level. -/
def Asks (list : List Int) (level : LogLevel) : Prop :=
  match list.find? fun number => IsSingle number with
  | some single => single = 8 ∨ single = 7 ∧ level ∈ [LogLevel.error, .critical, .info]
  | none => level.number ∈ list

theorem asks_cons_single {number : Int} (hsingle : IsSingle number) (list : List Int) :
    Asks (number :: list) level ↔
      number = 8 ∨ number = 7 ∧ level ∈ [LogLevel.error, .critical, .info] := by
  rw [Asks, List.find?_cons_of_pos (by simpa using hsingle)]

theorem asks_cons_other {number : Int} (hother : ¬IsSingle number) (list : List Int) :
    Asks (number :: list) level ↔
      Asks list level ∨ (∀ number ∈ list, ¬IsSingle number) ∧ level.number = number := by
  have hsearch : (number :: list).find? (fun number => IsSingle number) =
      list.find? fun number => IsSingle number :=
    List.find?_cons_of_neg (by simpa using hother)
  rw [Asks, Asks, hsearch]
  cases hfound : list.find? fun number => IsSingle number with
  | none =>
      have hnone : ∀ number ∈ list, ¬IsSingle number := by
        simpa using List.find?_eq_none.mp hfound
      dsimp only
      rw [List.mem_cons]
      exact ⟨fun h => h.elim (fun heq => .inr ⟨hnone, heq⟩) .inl,
        fun h => h.elim .inr fun heq => .inl heq.2⟩
  | some single =>
      have hmem : single ∈ list := List.mem_of_find?_eq_some hfound
      have hsingle : IsSingle single := by simpa using List.find?_some hfound
      exact ⟨.inl, fun h => h.resolve_right fun hnone => hnone.1 single hmem hsingle⟩

theorem LogLevel.number_bounds (level : LogLevel) : 0 < level.number ∧ level.number < 7 := by
  cases level <;> decide

theorem has_logLevelArray {number : Int} (hpos : 0 < number) (hlt : number < 7) :
    Has (logLevelArray.getD number.toNat 0) level ↔ level.number = number := by
  interval_cases number <;> cases level <;> decide

theorem has_single {number : Int} (hsingle : IsSingle number) :
    Has (logLevelArray.getD number.toNat 0) level ↔
      number = 8 ∨ number = 7 ∧ level ∈ [LogLevel.error, .critical, .info] := by
  rcases hsingle with rfl | rfl | rfl
  · cases level <;> decide
  · cases level <;> decide
  · cases level <;> decide

theorem has_toLogLevel (list : List Int) (logLevelValue : Nat) :
    Has (toLogLevel logLevelValue list) level ↔
      Asks list level ∨ (∀ number ∈ list, ¬IsSingle number) ∧ Has logLevelValue level := by
  induction list generalizing logLevelValue with
  | nil => simp [toLogLevel, Asks]
  | cons number list ih =>
      rw [toLogLevel]
      by_cases hmulti : 0 < number ∧ number < 7
      · have hother : ¬IsSingle number := by
          unfold IsSingle
          omega
        rw [if_pos hmulti, ih, asks_cons_other hother, List.forall_mem_cons, has_or,
          has_logLevelArray hmulti.1 hmulti.2]
        tauto
      · rw [if_neg hmulti]
        by_cases hsingle : IsSingle number
        · have hsame : number = 0 ∨ number = 7 ∨ number = 8 := hsingle
          rw [if_pos hsame, has_single hsingle, asks_cons_single hsingle]
          have hnot : ¬∀ number' ∈ number :: list, ¬IsSingle number' :=
            fun h => h number List.mem_cons_self hsingle
          simp only [hnot, false_and, or_false]
        · have hne : level.number ≠ number := by
            have hbounds := level.number_bounds
            omega
          rw [if_neg hsingle, ih, asks_cons_other hsingle, List.forall_mem_cons]
          tauto

/-- The level that is made of the list has the levels that the list asks for. -/
theorem has_prvRsuSettingsToLogLevel (list : List Int) :
    Has (prvRsuSettingsToLogLevel list) level ↔ Asks list level := by
  rw [prvRsuSettingsToLogLevel, has_toLogLevel]
  have hzero : ¬Has 0 level := by simp [Has]
  tauto

/-! ## Masks -/

theorem testBit_logMask (priority i : Nat) :
    (logMask priority).testBit i = decide (priority = i) := by
  rw [logMask, Nat.shiftLeft_eq, Nat.one_mul, Nat.testBit_two_pow]

theorem testBit_flag (level : LogLevel) (i : Nat) :
    level.flag.testBit i = decide (level.bit + 2 = i) := by
  have hflag : level.flag = logMask (level.bit + 2) := by cases level <;> rfl
  rw [hflag, testBit_logMask]

theorem LogLevel.priority_inj {level level' : LogLevel} :
    level.priority = level'.priority ↔ level = level' := by
  cases level <;> cases level' <;> decide

theorem LogLevel.bit_inj {level level' : LogLevel} : level.bit = level'.bit ↔ level = level' := by
  cases level <;> cases level' <;> decide

theorem testBit_note (logLevel : Nat) (level level' : LogLevel) (mf : MaskFlags) :
    (mf.note logLevel level).mask.testBit level'.priority =
        (mf.mask.testBit level'.priority ||
          (logLevel.testBit level.bit && decide (level = level'))) ∧
      (mf.note logLevel level).flags.testBit (level'.bit + 2) =
        (mf.flags.testBit (level'.bit + 2) ||
          (logLevel.testBit level.bit && decide (level = level'))) ∧
      ∀ i < 2, (mf.note logLevel level).flags.testBit i = mf.flags.testBit i := by
  rw [note_eq]
  cases logLevel.testBit level.bit with
  | false => simp
  | true =>
      refine ⟨?_, ?_, fun i hi => ?_⟩
      · simp [testBit_logMask, LogLevel.priority_inj]
      · simp [testBit_flag, LogLevel.bit_inj]
      · have hne : ¬level.bit + 2 = i := by omega
        simp [testBit_flag, hne]

def noteAll (logLevel : Nat) : MaskFlags :=
  (((((({} : MaskFlags).note logLevel .error).note logLevel .critical).note logLevel
    .warning).note logLevel .message).note logLevel .info).note logLevel .debug

theorem prvRsuLogGetMf_eq (logLevel : Nat) :
    prvRsuLogGetMf logLevel =
      if (noteAll logLevel).flags ≠ 0 then
        { noteAll logLevel with
          flags := (noteAll logLevel).flags ||| (gLogFlagRecursion ||| gLogFlagFatal) }
      else noteAll logLevel := rfl

theorem testBit_noteAll (logLevel : Nat) (level : LogLevel) :
    (noteAll logLevel).mask.testBit level.priority = logLevel.testBit level.bit ∧
      (noteAll logLevel).flags.testBit (level.bit + 2) = logLevel.testBit level.bit := by
  unfold noteAll
  simp only [(testBit_note _ _ _ _).1, (testBit_note _ _ _ _).2.1]
  cases level <;> simp [LogLevel.bit]

theorem testBit_noteAll_low (logLevel : Nat) {i : Nat} (hi : i < 2) :
    (noteAll logLevel).flags.testBit i = false := by
  unfold noteAll
  iterate 6 rw [(testBit_note _ _ .error _).2.2 i hi]
  exact Nat.zero_testBit i

theorem flags_noteAll_ne_zero :
    (noteAll logLevel).flags ≠ 0 ↔ ∃ level, Has logLevel level := by
  constructor
  · intro hne
    by_contra hnone
    have hbits : ∀ level : LogLevel, logLevel.testBit level.bit = false := by simpa using hnone
    apply hne
    unfold noteAll
    simp only [note_eq, hbits]
    rfl
  · rintro ⟨level, hhas⟩ hzero
    have hbit := (testBit_noteAll logLevel level).2
    rw [hzero, Nat.zero_testBit, hhas] at hbit
    cases hbit

theorem testBit_mask (logLevel : Nat) (level : LogLevel) :
    (prvRsuLogGetMf logLevel).mask.testBit level.priority = logLevel.testBit level.bit := by
  rw [prvRsuLogGetMf_eq]
  split
  · exact (testBit_noteAll logLevel level).1
  · exact (testBit_noteAll logLevel level).1

theorem testBit_flags (logLevel : Nat) (level : LogLevel) :
    (prvRsuLogGetMf logLevel).flags.testBit (level.bit + 2) = logLevel.testBit level.bit := by
  have hlow : (gLogFlagRecursion ||| gLogFlagFatal).testBit (level.bit + 2) = false := by
    cases level <;> decide
  rw [prvRsuLogGetMf_eq]
  split
  · rw [Nat.testBit_or, hlow, Bool.or_false]
    exact (testBit_noteAll logLevel level).2
  · exact (testBit_noteAll logLevel level).2

theorem testBit_flags_low {i : Nat} (hi : i < 2) :
    (prvRsuLogGetMf logLevel).flags.testBit i = true ↔ ∃ level, Has logLevel level := by
  have hlow : (gLogFlagRecursion ||| gLogFlagFatal).testBit i = true := by
    interval_cases i <;> decide
  rw [prvRsuLogGetMf_eq, ← flags_noteAll_ne_zero]
  split
  next hne => exact iff_of_true (by rw [Nat.testBit_or, hlow, Bool.or_true]) hne
  next hzero => exact iff_of_false (by rw [testBit_noteAll_low logLevel hi]; decide) hzero

/-! ## The filter -/

/-- The log lets the levels of `logLevel` pass that are compiled in, for messages of the
service only. -/
structure Filters (config : Config) (logLevel : Nat) (s : LogState) : Prop where
  mask : s.context.mask =
    (prvRsuLogGetMf logLevel).mask &&& (prvRsuLogGetMf config.logLevel).mask
  flags : s.context.flags =
    (prvRsuLogGetMf logLevel).flags &&& (prvRsuLogGetMf config.logLevel).flags
  syslogMask : s.context.mask ≠ 0 → s.syslogMask = s.context.mask
  handler : s.handler = .prvRsuLogHandler

theorem Filters.mask_has (h : Filters config logLevel s) (hcompiled : Has config.logLevel level) :
    s.context.mask &&& logMask level.priority ≠ 0 ↔ Has logLevel level := by
  rw [logMask, Nat.shiftLeft_eq, Nat.one_mul, Nat.and_two_pow, h.mask, Nat.testBit_and,
    testBit_mask, testBit_mask, hcompiled, Bool.and_true, Has]
  cases logLevel.testBit level.bit with
  | false => simp
  | true => simp

theorem Filters.syslog_iff (h : Filters config logLevel s)
    (hcompiled : Has config.logLevel level) :
    s.context.mask ≠ 0 ∧ vsyslog s level.priority = true ↔ Has logLevel level := by
  rw [← h.mask_has hcompiled, vsyslog, decide_eq_true_eq]
  constructor
  · rintro ⟨hne, hpasses⟩
    rwa [← h.syslogMask hne]
  · intro hpasses
    have hne : s.context.mask ≠ 0 := by
      intro hzero
      rw [hzero, Nat.zero_and] at hpasses
      exact hpasses rfl
    exact ⟨hne, by rwa [h.syslogMask hne]⟩

theorem lt_two_of_testBit (hadded : added < 4) {i : Nat} (hi : added.testBit i = true) :
    i < 2 := by
  by_contra hge
  have hpow : 2 ^ 2 ≤ 2 ^ i := Nat.pow_le_pow_right Nat.two_pos (not_lt.mp hge)
  rw [Nat.testBit_lt_two_pow (lt_of_lt_of_le hadded hpow)] at hi
  cases hi

/-- A flag that GLib adds lets a message pass as soon as any level is asked for. -/
theorem Filters.glib_iff (h : Filters config logLevel s) (hcompiled : Has config.logLevel level)
    (hadded : added < 4) :
    s.context.flags &&& (level.flag ||| added) ≠ 0 ↔
      Has logLevel level ∨ added ≠ 0 ∧ ∃ level', Has logLevel level' := by
  have hboth : ∀ i, s.context.flags.testBit i = true ↔
      (prvRsuLogGetMf logLevel).flags.testBit i = true ∧
        (prvRsuLogGetMf config.logLevel).flags.testBit i = true := by
    intro i
    rw [h.flags, Nat.testBit_and, Bool.and_eq_true]
  have hlevel : s.context.flags.testBit (level.bit + 2) = true ↔ Has logLevel level := by
    rw [hboth, testBit_flags, testBit_flags]
    exact and_iff_left hcompiled
  have hlow : ∀ i < 2, (s.context.flags.testBit i = true ↔ ∃ level', Has logLevel level') := by
    intro i hi
    rw [hboth, testBit_flags_low hi, testBit_flags_low hi]
    exact and_iff_left ⟨level, hcompiled⟩
  rw [and_ne_zero_iff]
  constructor
  · rintro ⟨i, hflags, hbit⟩
    rw [Nat.testBit_or, Bool.or_eq_true, testBit_flag, decide_eq_true_eq] at hbit
    rcases hbit with rfl | hbit
    · exact .inl (hlevel.mp hflags)
    · refine .inr ⟨?_, (hlow i (lt_two_of_testBit hadded hbit)).mp hflags⟩
      rintro rfl
      rw [Nat.zero_testBit] at hbit
      cases hbit
  · rintro (hhas | ⟨hne, hany⟩)
    · refine ⟨level.bit + 2, hlevel.mpr hhas, ?_⟩
      rw [Nat.testBit_or, testBit_flag]
      simp
    · obtain ⟨i, hi⟩ := Nat.exists_testBit_of_ne_zero hne
      have hflags := (hlow i (lt_two_of_testBit hadded hi)).mpr hany
      exact ⟨i, hflags, by rw [Nat.testBit_or, hi, Bool.or_true]⟩

/-- The message is one that the log writes: its level is compiled in and asked for; or
the log goes through GLib, which adds a flag, and some level is asked for.  What goes
through GLib is written if its default handler does so. -/
def Written (funcs : GLogFuncs) (config : Config) (logType : RsuLogType) (logLevel : Nat)
    (level : LogLevel) (added : Nat) : Prop :=
  Has config.logLevel level ∧
    (logType = .syslog ∧ Has logLevel level ∨
      logType = .glib ∧ (Has logLevel level ∨ added ≠ 0 ∧ ∃ level', Has logLevel level') ∧
        funcs 0 gLogDomain (level.flag ||| added) = true)

theorem Filters.writes (h : Filters config logLevel s) (funcs : GLogFuncs) (level : LogLevel)
    (hadded : added < 4) :
    rsuLogHelper funcs config s level added = true ↔
      Written funcs config s.context.logType logLevel level added := by
  rw [rsuLogHelper, decide_eq_true_eq, value_ne_zero_iff, Written]
  apply and_congr_right
  intro hcompiled
  rw [rsuLogTrace]
  cases s.context.logType with
  | syslog =>
      rw [decide_eq_true_eq, h.syslog_iff hcompiled]
      simp
  | glib =>
      have hflags : s.context.flags &&& (level.flag ||| added) ≠ 0 → s.context.flags ≠ 0 := by
        intro hpasses hzero
        rw [hzero, Nat.zero_and] at hpasses
        exact hpasses rfl
      rw [decide_eq_true_eq, gLogv, h.handler, ← h.glib_iff hcompiled hadded]
      simp only [prvRsuLogHandler, decide_eq_true_eq, true_and, reduceCtorEq, false_and,
        false_or]
      exact and_iff_right_of_imp fun hboth => hflags hboth.1
  | file => simp

@[simp] theorem context_setLogMask (mask : Nat) (s : LogState) :
    (setLogMask mask s).context = s.context := by
  unfold setLogMask
  split
  · rfl
  · rfl

@[simp] theorem handler_setLogMask (mask : Nat) (s : LogState) :
    (setLogMask mask s).handler = s.handler := by
  unfold setLogMask
  split
  · rfl
  · rfl

@[simp] theorem syslogMask_setLogMask (mask : Nat) (s : LogState) :
    (setLogMask mask s).syslogMask = if mask ≠ 0 then mask else s.syslogMask := by
  unfold setLogMask
  split
  · rfl
  · rfl

theorem filters_rsuLogInit (config : Config) (s : LogState) :
    Filters config config.logLevel (rsuLogInit config s) := by
  refine ⟨?_, ?_, ?_, rfl⟩
  · simp [rsuLogInit, prvRsuLogSetFlagsFromParam]
  · simp [rsuLogInit, prvRsuLogSetFlagsFromParam]
  · intro hne
    have hmask : (prvRsuLogGetMf config.logLevel).mask ≠ 0 := by
      simpa [rsuLogInit, prvRsuLogSetFlagsFromParam] using hne
    simp [rsuLogInit, prvRsuLogSetFlagsFromParam, hmask]

theorem filters_rsuLogUpdateTypeLevel (h : s.handler = .prvRsuLogHandler) (config : Config)
    (logType : RsuLogType) (logLevel : Nat) :
    Filters config logLevel (rsuLogUpdateTypeLevel config logType logLevel s) := by
  refine ⟨?_, ?_, ?_, ?_⟩
  · simp [rsuLogUpdateTypeLevel]
  · simp [rsuLogUpdateTypeLevel]
  · intro hne
    have hmask : (prvRsuLogGetMf logLevel).mask &&& (prvRsuLogGetMf config.logLevel).mask ≠ 0 := by
      simpa [rsuLogUpdateTypeLevel] using hne
    simp [rsuLogUpdateTypeLevel, hmask]
  · simpa [rsuLogUpdateTypeLevel] using h

end RendererService.Settings
