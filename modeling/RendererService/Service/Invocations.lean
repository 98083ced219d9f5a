import RendererService.Processor.Locality

/-!
# Invocations

A D-Bus invocation that was wrapped in a task is owed an answer by the record of
that task until it is answered.  A record that goes away pays what it owes, so an
invocation is answered once, and none is lost while its record is held.
-/

namespace RendererService

/-! ## Records that go away -/

/-- The records of `gone` go away, and exactly what they owed is answered. -/
structure Discards (gone : List TaskAtom) (w w' : World) : Prop where
  nextInvocation : w'.context.nextInvocation = w.context.nextInvocation
  tasks : ∀ a, w'.tasks a = if a ∈ gone then none else w.tasks a
  nodup : gone.Nodup
  log : ∃ es, w'.log = w.log ++ es ∧ answeredIn es = gone.flatMap (fun a => owed (w.tasks a)) ∧
    ∀ n a, .wrapped n a ∉ es

section Discards

variable {w w' : World} {k : TaskQueueKey}

theorem answeredIn_append (es es' : List Event) :
    answeredIn (es ++ es') = answeredIn es ++ answeredIn es' :=
  List.filterMap_append

theorem mem_answeredIn {n : Nat} : n ∈ answeredIn es ↔ ∃ reply, .answered n reply ∈ es := by
  unfold answeredIn
  rw [List.mem_filterMap]
  constructor
  · rintro ⟨e, he, heq⟩
    split at heq
    · obtain rfl := Option.some.inj heq
      exact ⟨_, he⟩
    · simp at heq
  · rintro ⟨reply, he⟩
    exact ⟨_, he, rfl⟩

theorem answeredIn_flatMap (l : List TaskAtom) (f : TaskAtom → List Event) :
    answeredIn (l.flatMap f) = l.flatMap fun a => answeredIn (f a) := by
  induction l with
  | nil => rfl
  | cons a l ih => rw [List.flatMap_cons, List.flatMap_cons, answeredIn_append, ih]

theorem answeredIn_deleteEvents (w : World) (a : TaskAtom) :
    answeredIn (w.deleteEvents a) = owed (w.tasks a) :=
  answeredIn_pendingReply _ _

theorem answeredIn_cancelEvents (w : World) (a : TaskAtom) :
    answeredIn (w.cancelEvents a) = owed (w.tasks a) := by
  have hsplit : answeredIn (w.cancelEvents a) =
      answeredIn (pendingReply (w.tasks a) (.error operationCancelled)) ++
        answeredIn [.deleted a] := answeredIn_append _ _
  rw [hsplit, answeredIn_pendingReply]
  exact List.append_nil _

theorem Discards.none (es : List Event)
    (hnext : w'.context.nextInvocation = w.context.nextInvocation)
    (htasks : w'.tasks = w.tasks) (hlog : w'.log = w.log ++ es) (hanswered : answeredIn es = [])
    (hwrapped : ∀ n a, .wrapped n a ∉ es) : Discards [] w w' :=
  ⟨hnext, fun _ => by rw [htasks]; rfl, .nil, es, hlog, hanswered, hwrapped⟩

theorem clearQueue_discards {q : TaskQueue} (hok : QueueOk w k q) :
    Discards q.tasks w (w.clearQueue k q) := by
  refine ⟨rfl, fun _ => rfl, hok.nodup, _, clearQueue_log w k q, ?_, ?_⟩
  · rw [answeredIn_flatMap]
    exact List.flatMap_congr fun a _ => answeredIn_cancelEvents w a
  · intro n a hmem
    obtain ⟨b, -, hb⟩ := List.mem_flatMap.mp hmem
    simpa using mem_cancelEvents hb

theorem dropQueue_discards {q : TaskQueue} (hok : QueueOk w k q) :
    Discards q.tasks w (w.dropQueue k q) := by
  refine ⟨?_, tasks_dropQueue w k q, hok.nodup, _, dropQueue_log w k q, ?_, ?_⟩
  · unfold World.dropQueue
    cases q.finallyCb <;> rfl
  · rw [answeredIn_flatMap]
    exact List.flatMap_congr fun a _ => answeredIn_deleteEvents w a
  · intro n a hmem
    obtain ⟨b, -, hb⟩ := List.mem_flatMap.mp hmem
    simpa using mem_deleteEvents hb

theorem completeTask_discards (w : World) (a : TaskAtom) :
    Discards [a] w (w.completeTask a.queueId a) := by
  have hquit : answeredIn (w.quitEvents a.queueId a) = [] := by
    unfold World.quitEvents
    split <;> rfl
  refine ⟨?_, fun b => ?_, List.nodup_singleton _, _, completeTask_log w _ a, ?_, ?_⟩
  · unfold World.completeTask
    dsimp only
    split <;> rfl
  · rw [tasks_completeTask]
    simp
  · have hsplit : answeredIn (.completed a.queueId ::
        (w.deleteEvents a ++ w.quitEvents a.queueId a)) =
          answeredIn (w.deleteEvents a) ++ answeredIn (w.quitEvents a.queueId a) :=
      answeredIn_append _ _
    rw [hsplit, hquit, answeredIn_deleteEvents]
    simp
  · intro n b hmem
    rcases List.mem_cons.mp hmem with hmem | hmem
    · simp at hmem
    · rcases List.mem_append.mp hmem with hmem | hmem
      · simpa using mem_deleteEvents hmem
      · simpa using mem_quitEvents hmem

theorem Step.discards {E : World → World → Prop} {act : Act} (hok : ProcessorOk w)
    (hstep : Step E w act w') (hadd : ∀ k deferRemove task, act ≠ .addTask k deferRemove task)
    (hact : act ≠ .elsewhere) : ∃ gone, Discards gone w w' := by
  cases hstep with
  | addTask _ _ => exact absurd rfl (hadd _ _ _)
  | elsewhere _ => exact absurd rfl hact
  | clear hq => exact ⟨_, clearQueue_discards (hok.queues _ _ hq)⟩
  | remove hq _ _ _ => exact ⟨_, dropQueue_discards (hok.queues _ _ hq)⟩
  | complete _ => exact ⟨_, completeTask_discards w _⟩
  | addQueue _ _ _ | arm _ _ _ _ | configure _ _ | defer _ _ _ _ | rehash _ =>
      exact ⟨[], .none [] rfl rfl (List.append_nil _).symm rfl (by simp)⟩
  | dispatch _ _ _ | cancelling _ | quitting _ =>
      exact ⟨[], .none [_] rfl rfl rfl rfl (by simp)⟩
  | quitNow _ => exact ⟨[], .none [_, _] rfl rfl (List.append_assoc _ _ _) rfl (by simp)⟩

end Discards

/-! ## Records and queues -/

def World.AllHeld (w : World) : Prop := ∀ a r, w.tasks a = some r → w.Holds a

section Held

variable {w w' : World} {k : TaskQueueKey}

/-- A replaced queue holds the tasks that the old one holds and that have a
record. -/
theorem allHeld_of_modify (h : w.AllHeld) {f : TaskQueue → TaskQueue}
    (hlookup : ∀ k₀, w'.queue? k₀ = if k₀ = k then (w.queue? k).map f else w.queue? k₀)
    (hrecords : ∀ a r, w'.tasks a = some r → w.tasks a = some r)
    (hf : ∀ q a r, w.queue? k = some q → w'.tasks a = some r →
      a ∈ q.tasks ∨ q.currentTask = some a → a ∈ (f q).tasks ∨ (f q).currentTask = some a) :
    w'.AllHeld := by
  intro a r hr
  obtain ⟨q, hq, ha⟩ := h a r (hrecords a r hr)
  unfold World.Holds
  rw [hlookup]
  split
  next hk =>
    rw [← hk, hq]
    exact ⟨f q, rfl, hf q a r (hk ▸ hq) hr ha⟩
  · exact ⟨q, hq, ha⟩

theorem pushTask_allHeld (h : w.AllHeld) {q : TaskQueue} (hq : w.queue? k = some q)
    (task : Task) : (w.pushTask k task).AllHeld := by
  intro a r hr
  have hlookup := queue?_pushTask w k a.queueId task
  by_cases ha : a = w.newAtom k
  · subst ha
    refine ⟨{ q with tasks := q.tasks ++ [w.newAtom k] }, ?_, .inl (by simp)⟩
    have hkey : (w.newAtom k).queueId = k := rfl
    rw [hlookup, if_pos hkey, hq]
    rfl
  · have hr' : w.tasks a = some r := by
      have : (w.pushTask k task).tasks a = if a = w.newAtom k then some task else w.tasks a := rfl
      rwa [this, if_neg ha] at hr
    obtain ⟨q', hq', hheld⟩ := h a r hr'
    unfold World.Holds
    rw [hlookup]
    split
    next hk =>
      rw [← hk, hq']
      exact ⟨_, rfl, hheld.imp_left (List.mem_append_left _)⟩
    · exact ⟨q', hq', hheld⟩

theorem dropQueue_allHeld (h : w.AllHeld) {q : TaskQueue} (hq : w.queue? k = some q)
    (hcurrent : q.currentTask = none) (hdiscards : Discards q.tasks w (w.dropQueue k q)) :
    (w.dropQueue k q).AllHeld := by
  intro a r hr
  rw [hdiscards.tasks] at hr
  split at hr
  · simp at hr
  next hmem =>
    obtain ⟨q', hq', hheld⟩ := h a r hr
    refine ⟨q', ?_, hheld⟩
    rw [queue?_dropQueue, if_neg]
    · exact hq'
    · intro hk
      obtain rfl := Option.some.inj (hq.symm.trans (hk ▸ hq'))
      rcases hheld with hin | hin
      · exact hmem hin
      · exact absurd (hcurrent.symm.trans hin) (by simp)

theorem Step.allHeld {E : World → World → Prop} {act : Act} (hok : ProcessorOk w)
    (h : w.AllHeld) (hstep : Step E w act w') (hact : act ≠ .elsewhere) : w'.AllHeld := by
  cases hstep with
  | elsewhere _ => exact absurd rfl hact
  | @addQueue source sink flags callbacks _ =>
      intro a r hr
      obtain ⟨q, hq, hheld⟩ := h a r hr
      have hlookup : (w.addQueue source sink flags callbacks).queue? a.queueId =
          if a.queueId = ⟨w.processor.nextKey, source, sink⟩ then
            some { callbacks := callbacks, flags := flags } else w.queue? a.queueId :=
        Assoc.lookup_insert_eq _ _ _ _
      refine ⟨q, ?_, hheld⟩
      rw [hlookup, if_neg]
      · exact hq
      · intro hk
        have := (hok.queues _ q hq).key
        simp [hk] at this
  | addTask hq _ => exact pushTask_allHeld h hq _
  | arm _ _ _ _ =>
      refine allHeld_of_modify h (fun k₀ => queue?_modifyQueue _ _ k₀ _) (fun _ _ hr => hr) ?_
      exact fun _ _ _ _ _ hheld => hheld
  | @dispatch k q a rest hq hidle htasks =>
      refine allHeld_of_modify h (fun k₀ => queue?_dispatchTask _ k k₀ a rest) (fun _ _ hr => hr) ?_
      rintro q' b r hq' - hheld
      obtain rfl := Option.some.inj (hq.symm.trans hq')
      rw [htasks, ((hok.queues k q hq).idle hidle).1] at hheld
      rcases hheld with hmem | hnone
      · rcases List.mem_cons.mp hmem with rfl | hmem
        · exact .inr rfl
        · exact .inl hmem
      · simp at hnone
  | configure hq hf =>
      refine allHeld_of_modify h (fun k₀ => queue?_modifyQueue w _ k₀ _) (fun _ _ hr => hr) ?_
      rintro q' b r hq' - hheld
      obtain rfl := Option.some.inj (hq.symm.trans hq')
      rwa [hf.1, hf.2.2.1]
  | defer _ _ _ _ =>
      refine allHeld_of_modify h (fun k₀ => queue?_modifyQueue w _ k₀ _) (fun _ _ hr => hr) ?_
      exact fun _ _ _ _ _ hheld => hheld
  | @clear k q hq =>
      have hrecord : ∀ a, (w.clearQueue k q).tasks a = if a ∈ q.tasks then none else w.tasks a :=
        fun _ => rfl
      refine allHeld_of_modify h (fun k₀ => queue?_clearQueue w k k₀ q) ?_ ?_
      · intro a r hr
        rw [hrecord] at hr
        split at hr
        · simp at hr
        · exact hr
      · rintro q' a r hq' hr hheld
        obtain rfl := Option.some.inj (hq.symm.trans hq')
        refine hheld.imp_left fun hmem => ?_
        rw [hrecord, if_pos hmem] at hr
        simp at hr
  | @complete a ha =>
      have hrecord := (completeTask_discards w a).tasks
      refine allHeld_of_modify h (fun k₀ => queue?_completeTask w a.queueId k₀ a) ?_ ?_
      · intro b r hr
        rw [hrecord] at hr
        split at hr
        · simp at hr
        · exact hr
      · rintro q b r hq hr hheld
        refine hheld.imp_right fun hb => ?_
        obtain ⟨q', hq', ha'⟩ := ha
        obtain rfl := Option.some.inj (hq'.symm.trans hq)
        obtain rfl := Option.some.inj (ha'.symm.trans hb)
        rw [hrecord, if_pos List.mem_cons_self] at hr
        simp at hr
  | remove hq hcurrent _ _ =>
      exact dropQueue_allHeld h hq hcurrent (dropQueue_discards (hok.queues _ _ hq))
  | cancelling _ | quitting _ | quitNow _ => exact fun a r hr => h a r hr
  | @rehash t ht =>
      intro a r hr
      obtain ⟨q, hq, hheld⟩ := h a r hr
      have hlookup : (w.setQueues t).queue? a.queueId = w.queue? a.queueId := AList.perm_lookup ht
      exact ⟨q, hlookup ▸ hq, hheld⟩

theorem World.AllHeld.of_elsewhere (h : w.AllHeld) (hprocessor : w'.processor = w.processor)
    (hrecords : ∀ a r, w'.tasks a = some r → ∃ r₀, w.tasks a = some r₀) : w'.AllHeld := by
  intro a r hr
  obtain ⟨r₀, hr₀⟩ := hrecords a r hr
  obtain ⟨q, hq, hheld⟩ := h a r₀ hr₀
  exact ⟨q, by show w'.processor.taskQueues.lookup _ = _; rw [hprocessor]; exact hq, hheld⟩

end Held

/-! ## The accounts -/

/-- The invocation was handed out, and nobody answered it or owes it an answer. -/
structure World.Unused (w : World) (n : Nat) : Prop where
  bound : n < w.context.nextInvocation
  unanswered : n ∉ answeredIn w.log
  unowed : ∀ a, n ∉ owed (w.tasks a)

/-- The accounts of all invocations; `handled` is the one whose handler runs. -/
structure InvocationsOk (handled : Option Nat) (w : World) : Prop where
  unpaid : ∀ a, ∀ n ∈ owed (w.tasks a), n < w.context.nextInvocation ∧ n ∉ answeredIn w.log
  distinct : ∀ a b n, n ∈ owed (w.tasks a) → n ∈ owed (w.tasks b) → a = b
  once : (answeredIn w.log).Nodup
  bound : ∀ n ∈ answeredIn w.log, n < w.context.nextInvocation
  wrapped : ∀ n a, .wrapped n a ∈ w.log →
    n ∈ answeredIn w.log ∨ n ∈ owed (w.tasks a)
  handled : ∀ n, handled = some n → w.Unused n

section Accounts

variable {w w' : World} {handled : Option Nat}

theorem owed_nodup (r : Option Task) : (owed r).Nodup := by
  rcases r with _ | t | t
  · exact List.nodup_nil
  · cases hi : t.invocation <;> simp [owed, hi]
  · exact List.nodup_nil

/-- What is answered was owed, and what is owed still was owed and is not
answered. -/
theorem InvocationsOk.settle (h : InvocationsOk handled w) {es : List Event}
    (hlog : w'.log = w.log ++ es) (hwrapped : ∀ n a, .wrapped n a ∉ es)
    (hnext : w'.context.nextInvocation = w.context.nextInvocation)
    (hnodup : (answeredIn es).Nodup)
    (hanswered : ∀ n ∈ answeredIn es, ∃ a, n ∈ owed (w.tasks a))
    (howed : ∀ a n, n ∈ owed (w.tasks a) ↔
      n ∈ owed (w'.tasks a) ∨ n ∈ owed (w.tasks a) ∧
        n ∈ answeredIn es)
    (hpaid : ∀ a, ∀ n ∈ owed (w'.tasks a), n ∉ answeredIn es) :
    InvocationsOk handled w' := by
  have hold : ∀ a n, n ∈ owed (w'.tasks a) → n ∈ owed (w.tasks a) :=
    fun a n hn => (howed a n).mpr (.inl hn)
  have hlog' : ∀ n, n ∈ answeredIn w'.log ↔ n ∈ answeredIn w.log ∨ n ∈ answeredIn es := by
    intro n
    rw [hlog, answeredIn_append, List.mem_append]
  refine ⟨?_, ?_, ?_, ?_, ?_, ?_⟩
  · intro a n hn
    obtain ⟨hbound, hnot⟩ := h.unpaid a n (hold a n hn)
    rw [hnext, hlog']
    exact ⟨hbound, fun hmem => hmem.elim hnot (hpaid a n hn)⟩
  · exact fun a b n ha hb => h.distinct a b n (hold a n ha) (hold b n hb)
  · rw [hlog, answeredIn_append, List.nodup_append]
    refine ⟨h.once, hnodup, ?_⟩
    rintro n hn m hm rfl
    obtain ⟨a, ha⟩ := hanswered n hm
    exact (h.unpaid a n ha).2 hn
  · intro n hn
    rw [hnext]
    rcases (hlog' n).mp hn with hn | hn
    · exact h.bound n hn
    · obtain ⟨a, ha⟩ := hanswered n hn
      exact (h.unpaid a n ha).1
  · intro n a hmem
    rw [hlog] at hmem
    rw [hlog']
    rcases h.wrapped n a ((List.mem_append.mp hmem).resolve_right (hwrapped n a)) with hn | hn
    · exact .inl (.inl hn)
    · rcases (howed a n).mp hn with hn | ⟨-, hn⟩
      · exact .inr hn
      · exact .inl (.inr hn)
  · intro n hn
    obtain ⟨hbound, hunanswered, hunowed⟩ := h.handled n hn
    refine ⟨hnext ▸ hbound, fun hmem => ?_, fun a ha => hunowed a (hold a n ha)⟩
    rcases (hlog' n).mp hmem with hmem | hmem
    · exact hunanswered hmem
    · obtain ⟨a, ha⟩ := hanswered n hmem
      exact hunowed a ha

theorem InvocationsOk.discards (h : InvocationsOk handled w) {gone : List TaskAtom}
    (hd : Discards gone w w') : InvocationsOk handled w' := by
  obtain ⟨es, hlog, hes, hwrapped⟩ := hd.log
  have hmem : ∀ n, n ∈ answeredIn es ↔ ∃ a ∈ gone, n ∈ owed (w.tasks a) := by
    intro n
    rw [hes, List.mem_flatMap]
  have hrecord : ∀ a n, n ∈ owed (w'.tasks a) ↔
      a ∉ gone ∧ n ∈ owed (w.tasks a) := by
    intro a n
    rw [hd.tasks]
    by_cases ha : a ∈ gone <;> simp [ha, owed]
  refine h.settle hlog hwrapped hd.nextInvocation ?_ ?_ ?_ ?_
  · rw [hes, List.nodup_flatMap]
    refine ⟨fun a _ => owed_nodup _, hd.nodup.imp fun {a b} hne => ?_⟩
    intro n ha hb
    exact hne (h.distinct a b n ha hb)
  · intro n hn
    obtain ⟨a, -, ha⟩ := (hmem n).mp hn
    exact ⟨a, ha⟩
  · intro a n
    rw [hrecord, hmem]
    constructor
    · intro hn
      by_cases ha : a ∈ gone
      · exact .inr ⟨hn, a, ha, hn⟩
      · exact .inl ⟨ha, hn⟩
    · rintro (hn | hn)
      · exact hn.2
      · exact hn.1
  · intro a n hn hpaid
    obtain ⟨ha, hn⟩ := (hrecord a n).mp hn
    obtain ⟨b, hb, hn'⟩ := (hmem n).mp hpaid
    exact ha (h.distinct b a n hn' hn ▸ hb)

theorem InvocationsOk.touches (h : InvocationsOk handled w) {a : TaskAtom}
    (ht : Touches a w w') : InvocationsOk handled w' := by
  obtain ⟨es, hlog, hreport⟩ := ht.log
  have hanswers := ht.answers es hlog
  have hsplit : ∀ n, n ∈ owed (w.tasks a) ↔
      n ∈ answeredIn es ∨ n ∈ owed (w'.tasks a) := by
    intro n
    rw [← hanswers, List.mem_append]
  have hnodup : (answeredIn es ++ owed (w'.tasks a)).Nodup :=
    hanswers ▸ owed_nodup _
  rw [List.nodup_append] at hnodup
  refine h.settle hlog ?_ (by rw [ht.context]) hnodup.1 ?_ ?_ ?_
  · intro n b hmem
    exact absurd (hreport _ hmem) (by simp [Event.isReport])
  · exact fun n hn => ⟨a, (hsplit n).mpr (.inl hn)⟩
  · intro b n
    by_cases hb : b = a
    · subst hb
      rw [hsplit]
      tauto
    · rw [ht.others b hb]
      tauto
  · intro b n hn hpaid
    by_cases hb : b = a
    · subst hb
      exact hnodup.2.2 n hpaid n hn rfl
    · rw [ht.others b hb] at hn
      exact hb (h.distinct b a n hn ((hsplit n).mpr (.inl hpaid)))

theorem InvocationsOk.congr (h : InvocationsOk handled w) {es : List Event}
    (hlog : w'.log = w.log ++ es) (hanswered : answeredIn es = [])
    (hwrapped : ∀ n a, .wrapped n a ∉ es) (htasks : w'.tasks = w.tasks)
    (hnext : w'.context.nextInvocation = w.context.nextInvocation) : InvocationsOk handled w' := by
  refine h.settle hlog hwrapped hnext (by rw [hanswered]; exact .nil) ?_ ?_ ?_
  · simp [hanswered]
  · simp [hanswered, htasks]
  · simp [hanswered]

/-- A task enters whose record owes an invocation that nobody else owes. -/
theorem InvocationsOk.push (h : InvocationsOk handled w) {k : TaskQueueKey} {task : Task}
    (hnew : w.tasks (w.newAtom k) = none)
    (hunused : ∀ n ∈ owed (some task), w.Unused n ∧ handled ≠ some n) :
    InvocationsOk handled (w.pushTask k task) := by
  have hcase : ∀ a n, n ∈ owed ((w.pushTask k task).tasks a) →
      a = w.newAtom k ∧ n ∈ owed (some task) ∨ n ∈ owed (w.tasks a) := by
    intro a n hn
    have hrecord : (w.pushTask k task).tasks a =
        if a = w.newAtom k then some task else w.tasks a := rfl
    rw [hrecord] at hn
    split at hn
    next ha => exact .inl ⟨ha, hn⟩
    · exact .inr hn
  have hlog : answeredIn (w.pushTask k task).log = answeredIn w.log := by
    show answeredIn (w.log ++ [.added (w.newAtom k)]) = _
    rw [answeredIn_append]
    exact List.append_nil _
  refine ⟨?_, ?_, hlog ▸ h.once, hlog ▸ h.bound, ?_, ?_⟩
  · intro a n hn
    rw [hlog]
    rcases hcase a n hn with ⟨-, hn⟩ | hn
    · exact ⟨(hunused n hn).1.bound, (hunused n hn).1.unanswered⟩
    · exact h.unpaid a n hn
  · intro a b n ha hb
    rcases hcase a n ha with ⟨ha', hn⟩ | hn
    · rcases hcase b n hb with ⟨hb', -⟩ | hn'
      · exact ha'.trans hb'.symm
      · exact absurd hn' ((hunused n hn).1.unowed b)
    · rcases hcase b n hb with ⟨-, hn'⟩ | hn'
      · exact absurd hn ((hunused n hn').1.unowed a)
      · exact h.distinct a b n hn hn'
  · intro n a hmem
    have hadded : (w.pushTask k task).log = w.log ++ [.added (w.newAtom k)] := rfl
    have hmem' : .wrapped n a ∈ w.log := by simpa [hadded] using hmem
    rw [hlog]
    refine (h.wrapped n a hmem').imp_right fun hn => ?_
    have hne : a ≠ w.newAtom k := by
      rintro rfl
      rw [hnew] at hn
      simp [owed] at hn
    have hrecord : (w.pushTask k task).tasks a = w.tasks a := if_neg hne
    rwa [hrecord]
  · intro n hn
    obtain ⟨hbound, hunanswered, hunowed⟩ := h.handled n hn
    refine ⟨hbound, hlog ▸ hunanswered, fun a ha => ?_⟩
    rcases hcase a n ha with ⟨-, hn'⟩ | hn'
    · exact (hunused n hn').2 hn
    · exact hunowed a hn'

theorem InvocationsOk.arrive (h : InvocationsOk none w) :
    InvocationsOk (some w.context.nextInvocation) w.newInvocation.2 := by
  refine ⟨?_, h.distinct, h.once, ?_, h.wrapped, ?_⟩
  · exact fun a n hn => ⟨Nat.lt_succ_of_lt (h.unpaid a n hn).1, (h.unpaid a n hn).2⟩
  · exact fun n hn => Nat.lt_succ_of_lt (h.bound n hn)
  · intro n hn
    obtain rfl := Option.some.inj hn
    refine ⟨Nat.lt_succ_self _, fun hmem => ?_, fun a ha => ?_⟩
    · exact Nat.lt_irrefl _ (h.bound _ hmem)
    · exact Nat.lt_irrefl _ (h.unpaid a _ ha).1

theorem InvocationsOk.forget (h : InvocationsOk handled w) : InvocationsOk none w :=
  ⟨h.unpaid, h.distinct, h.once, h.bound, h.wrapped, by simp⟩

theorem InvocationsOk.answer {n : Nat} (h : InvocationsOk (some n) w) (reply : Reply) :
    InvocationsOk none (w.emit (.answered n reply)) := by
  obtain ⟨hbound, hunanswered, hunowed⟩ := h.handled n rfl
  have hlog : answeredIn (w.emit (.answered n reply)).log = answeredIn w.log ++ [n] :=
    answeredIn_append _ _
  refine ⟨?_, h.distinct, ?_, ?_, ?_, by simp⟩
  · intro a m hm
    refine ⟨(h.unpaid a m hm).1, ?_⟩
    rw [hlog, List.mem_append, List.mem_singleton]
    rintro (hmem | rfl)
    · exact (h.unpaid a m hm).2 hmem
    · exact hunowed a hm
  · rw [hlog, List.nodup_append]
    refine ⟨h.once, List.nodup_singleton _, ?_⟩
    rintro m hm x hx rfl
    exact hunanswered (List.mem_singleton.mp hx ▸ hm)
  · intro m hm
    rw [hlog, List.mem_append, List.mem_singleton] at hm
    rcases hm with hm | rfl
    · exact h.bound m hm
    · exact hbound
  · intro m a hmem
    have hmem' : .wrapped m a ∈ w.log := by simpa [World.emit] using hmem
    rw [hlog, List.mem_append]
    exact (h.wrapped m a hmem').imp_left .inl

theorem InvocationsOk.wrap (h : InvocationsOk handled w) {n : Nat} {a : TaskAtom}
    (hn : n ∈ owed (w.tasks a)) : InvocationsOk handled (w.emit (.wrapped n a)) := by
  have hlog : answeredIn (w.emit (.wrapped n a)).log = answeredIn w.log := by
    show answeredIn (w.log ++ [.wrapped n a]) = _
    rw [answeredIn_append]
    exact List.append_nil _
  refine ⟨?_, h.distinct, hlog ▸ h.once, hlog ▸ h.bound, ?_, ?_⟩
  · intro b m hm
    rw [hlog]
    exact h.unpaid b m hm
  · intro m b hmem
    rw [hlog]
    rcases List.mem_append.mp hmem with hmem | hmem
    · exact h.wrapped m b hmem
    · obtain ⟨rfl, rfl⟩ : m = n ∧ b = a := by simpa using hmem
      exact .inr hn
  · intro m hm
    obtain ⟨hbound, hunanswered, hunowed⟩ := h.handled m hm
    exact ⟨hbound, hlog ▸ hunanswered, hunowed⟩

end Accounts

end RendererService
