import XrtcServer.Base.XrtcLog

/-!
# Every message is written

No thread keeps the writer from its queues for long, so what waits in a queue is written soon:
`stepsLeft` counts the steps of the writer until it has emptied a queue and written what was in it.
A message that comes just after its queue was emptied waits until the writer comes round and writes
again, which takes twelve steps if both files have to be opened.

## What cannot put the writer back

What the other threads do in the meantime, and what happens to the files, cannot put the writer
back: a message only makes a queue longer, and a file that was moved is opened again on the way.
Only `stop` can, and then what comes after the last round stays in the queue.

So `Waiting` counts down with the steps of the writer and stays where it is with all others, and
the bound is a number of steps, not of events.
-/

namespace XrtcServer

open EventRun

/-- How many steps there are at most until the queue is emptied and the stream written. -/
def LogStep.stepsLeft : LogKind → LogStep → ℕ
  | .log, drain .log => 2
  | .log, reopen .wf => 3
  | .log, stat .wf => 4
  | .log, reopen .log => 5
  | .log, stat .log => 6
  | .log, whileRunning => 7
  | .log, clear .wf => 8
  | .log, write .wf _ => 9
  | .log, drain .wf => 10
  | .log, clear .log => 11
  | .log, write .log _ => 12
  | .wf, drain .wf => 2
  | .wf, clear .log => 3
  | .wf, write .log _ => 4
  | .wf, drain .log => 5
  | .wf, reopen .wf => 6
  | .wf, stat .wf => 7
  | .wf, reopen .log => 8
  | .wf, stat .log => 9
  | .wf, whileRunning => 10
  | .wf, clear .wf => 11
  | .wf, write .wf _ => 12
  | _, exited => 0

/-- The number of steps that the writer makes in a run. -/
def writerSteps : List LogEvent → ℕ
  | [] => 0
  | .writer _ _ :: es => writerSteps es + 1
  | _ :: es => writerSteps es

theorem LogKind.afterStat_ne_exited (kind : LogKind) : kind.afterStat ≠ .exited := by
  cases kind <;> decide

theorem LogKind.afterClear_ne_exited (kind : LogKind) : kind.afterClear ≠ .exited := by
  cases kind <;> decide

namespace XrtcLog

variable {kind : LogKind} {l : XrtcLog} {a n : ℕ}

/-- Of the messages for this file all but the last `a` are written. -/
structure Finished (kind : LogKind) (a : ℕ) (l : XrtcLog) : Prop where
  thread : l.thread ≠ some (.write kind true)
  queue : (l.sides kind).queue.length ≤ a

/-- The writer runs, and in `n` steps all messages but the last `a` will be written: it is on its
way to the queue, or it has them in its hands. -/
structure Waiting (kind : LogKind) (a n : ℕ) (l : XrtcLog) : Prop where
  running : l.running = true
  thread : ∃ pc, l.thread = some pc ∧ pc ≠ .exited ∧ (pc.stepsLeft kind ≤ n ∨
    1 ≤ n ∧ (∃ writeLog, pc = .write kind writeLog) ∧ (l.sides kind).queue.length ≤ a)

theorem two_le_stepsLeft (kind : LogKind) {pc : LogStep} (h : pc ≠ .exited) :
    2 ≤ pc.stepsLeft kind := by
  cases pc with
  | whileRunning => cases kind <;> decide
  | stat k => cases kind <;> cases k <;> decide
  | reopen k => cases kind <;> cases k <;> decide
  | drain k => cases kind <;> cases k <;> decide
  | write k writeLog => cases kind <;> cases k <;> simp [LogStep.stepsLeft]
  | clear k => cases kind <;> cases k <;> decide
  | exited => exact absurd rfl h

theorem Waiting.pos (h : Waiting kind a n l) : 1 ≤ n := by
  obtain ⟨pc, -, hpc, hleft | ⟨hn, -⟩⟩ := h.thread
  · have hpos := two_le_stepsLeft kind hpc
    omega
  · exact hn

theorem Waiting.goto {pc : LogStep} (hrunning : l.running = true) (hthread : l.thread = some pc)
    (hpc : pc ≠ .exited) (hleft : pc.stepsLeft kind ≤ n) : Waiting kind a n l :=
  ⟨hrunning, pc, hthread, hpc, .inl hleft⟩

/-- On its way the writer comes closer with every step. -/
theorem Waiting.writerStep (h : Waiting kind a (n + 1) l) (ok : Bool) (taken : ℕ) :
    Finished kind a (l.writerStep ok taken) ∨ Waiting kind a n (l.writerStep ok taken) := by
  obtain ⟨pc, hthread, hpc, hleft⟩ := h.thread
  have hrunning := h.running
  rw [XrtcLog.writerStep, hthread]
  rcases hleft with hleft | ⟨-, ⟨writeLog, rfl⟩, hqueue⟩
  · right
    cases pc with
    | whileRunning =>
      dsimp only
      rw [if_pos hrunning]
      refine .goto hrunning rfl (by simp) ?_
      cases kind <;> exact Nat.le_of_succ_le_succ hleft
    | stat k =>
      dsimp only
      split_ifs
      · refine .goto hrunning rfl (by simp) ?_
        cases kind <;> cases k <;> exact Nat.le_of_succ_le_succ hleft
      · refine .goto hrunning rfl k.afterStat_ne_exited ?_
        -- Without the reopening it is one step less.
        cases kind <;> cases k <;> simp only [LogStep.stepsLeft, LogKind.afterStat] at hleft ⊢ <;>
          omega
    | reopen k =>
      refine .goto hrunning rfl k.afterStat_ne_exited ?_
      cases kind <;> cases k <;> exact Nat.le_of_succ_le_succ hleft
    | drain k =>
      by_cases hk : kind = k
      · subst hk
        refine ⟨hrunning, _, rfl, by simp, .inr ⟨?_, ⟨_, rfl⟩, ?_⟩⟩
        · cases kind <;> exact Nat.le_of_succ_le_succ hleft
        · dsimp only
          rw [sides_modifySide_self]
          exact Nat.zero_le a
      · refine .goto hrunning rfl (by simp) ?_
        cases kind <;> cases k <;>
          first | exact absurd rfl hk | exact Nat.le_of_succ_le_succ hleft
    | write k writeLog =>
      have hside : (if writeLog then l.modifySide k fun s ↦ s.put l.ss taken else l).running =
          true := by
        split_ifs <;> exact hrunning
      refine .goto hside rfl (by simp) ?_
      cases kind <;> cases k <;> exact Nat.le_of_succ_le_succ hleft
    | clear k =>
      refine .goto hrunning rfl k.afterClear_ne_exited ?_
      cases kind <;> cases k <;> exact Nat.le_of_succ_le_succ hleft
    | exited => exact absurd rfl hpc
  · left
    refine ⟨by simp [XrtcLog.goto], ?_⟩
    dsimp only [XrtcLog.goto]
    split_ifs
    · rw [sides_modifySide_self, LogSide.queue_put]
      exact hqueue
    · exact hqueue

theorem length_queue_step (l : XrtcLog) {e : LogEvent} (he : ∀ ok taken, e ≠ .writer ok taken) :
    ((l.step e).sides kind).queue.length ≤
      (l.sides kind).queue.length + (e.messageFor kind).toList.length := by
  cases e with
  | onLogMessage message severity =>
    rw [step, onLogMessage, LogEvent.messageFor]
    by_cases hk : severity.kind = kind
    · subst hk
      rw [sides_modifySide_self, if_pos rfl]
      exact (List.length_append ..).le
    · rw [sides_modifySide_of_ne (Ne.symm hk), if_neg hk]
      exact le_rfl
  | start =>
    rw [step, start]
    split_ifs <;> exact le_rfl
  | stop => exact le_rfl
  | join =>
    rw [step, join]
    split_ifs <;> exact le_rfl
  | writer ok taken => exact absurd rfl (he ok taken)
  | moveFile k =>
    rw [step]
    by_cases hk : kind = k
    · subst hk
      rw [sides_modifySide_self]
      exact le_rfl
    · rw [sides_modifySide_of_ne hk]
      exact le_rfl
  | placeFile k =>
    rw [step]
    by_cases hk : kind = k
    · subst hk
      rw [sides_modifySide_self]
      exact le_rfl
    · rw [sides_modifySide_of_ne hk]
      exact le_rfl

/-- `stop` apart, only the writer itself can change where a writer that runs is. -/
theorem running_step {e : LogEvent} (hrunning : l.running = true)
    (hexited : l.thread ≠ some .exited) (hstop : e ≠ .stop)
    (he : ∀ ok taken, e ≠ .writer ok taken) :
    (l.step e).running = true ∧ (l.step e).thread = l.thread := by
  cases e with
  | onLogMessage message severity => exact ⟨hrunning, rfl⟩
  | start =>
    rw [step, start, if_pos (by rw [hrunning, Bool.true_or])]
    exact ⟨hrunning, rfl⟩
  | stop => exact absurd rfl hstop
  | join =>
    rw [step, join, if_neg hexited]
    exact ⟨hrunning, rfl⟩
  | writer ok taken => exact absurd rfl (he ok taken)
  | moveFile k => exact ⟨hrunning, rfl⟩
  | placeFile k => exact ⟨hrunning, rfl⟩

/-- What the others do does not put the writer back. -/
theorem Waiting.step (h : Waiting kind a n l) {e : LogEvent} (hstop : e ≠ .stop)
    (he : ∀ ok taken, e ≠ .writer ok taken) :
    Waiting kind (a + (e.messageFor kind).toList.length) n (l.step e) := by
  obtain ⟨pc, hthread, hpc, hleft⟩ := h.thread
  have hexited : l.thread ≠ some .exited := by
    rw [hthread]
    exact fun heq ↦ hpc (Option.some.inj heq)
  obtain ⟨hrunning, hsame⟩ := running_step h.running hexited hstop he
  refine ⟨hrunning, pc, hsame.trans hthread, hpc, hleft.imp_right ?_⟩
  rintro ⟨hn, hwrite, hqueue⟩
  refine ⟨hn, hwrite, (length_queue_step l he).trans ?_⟩
  exact Nat.add_le_add_right hqueue _

theorem messages_cons (kind : LogKind) (e : LogEvent) (es : List LogEvent) :
    messages kind (e :: es) = (e.messageFor kind).toList ++ messages kind es := by
  rw [messages, messages, List.filterMap_cons]
  rcases e.messageFor kind with _ | message <;> rfl

/-- **The writer gets there.** -/
theorem Waiting.finished {fs : List LogEvent} (h : Waiting kind a n l) (hstop : .stop ∉ fs)
    (hsteps : n ≤ writerSteps fs) :
    ∃ gs, gs <+: fs ∧ Finished kind (a + (messages kind gs).length) (exec XrtcLog.step l gs) := by
  induction fs generalizing a n l with
  | nil =>
    have hpos := h.pos
    rw [writerSteps] at hsteps
    omega
  | cons e fs ih =>
    have hne : e ≠ .stop := fun heq ↦ hstop (heq ▸ List.mem_cons_self)
    have hrest : LogEvent.stop ∉ fs := fun hmem ↦ hstop (List.mem_cons_of_mem e hmem)
    by_cases he : ∃ ok taken, e = .writer ok taken
    · obtain ⟨ok, taken, rfl⟩ := he
      obtain ⟨n, rfl⟩ : ∃ m, n = m + 1 := Nat.exists_eq_add_of_le' h.pos
      rcases h.writerStep ok taken with hdone | hwaiting
      · exact ⟨[.writer ok taken], ⟨fs, rfl⟩, hdone⟩
      · have hleft : n ≤ writerSteps fs := Nat.le_of_succ_le_succ hsteps
        obtain ⟨gs, hgs, hdone⟩ := ih hwaiting hrest hleft
        refine ⟨.writer ok taken :: gs, List.prefix_cons_inj _ |>.mpr hgs, ?_⟩
        rw [messages_cons]
        exact hdone
    · have hother (ok : Bool) (taken : ℕ) : e ≠ .writer ok taken :=
        fun heq ↦ he ⟨ok, taken, heq⟩
      have hleft : n ≤ writerSteps fs := by
        cases e with
        | writer ok taken => exact absurd rfl (hother ok taken)
        | _ => exact hsteps
      obtain ⟨gs, hgs, hdone⟩ := ih (h.step hne hother) hrest hleft
      refine ⟨e :: gs, List.prefix_cons_inj _ |>.mpr hgs, ?_⟩
      rw [messages_cons, List.length_append, ← Nat.add_assoc]
      exact hdone

/-- While the log is told to run, the thread is there. -/
def Alive (l : XrtcLog) : Prop :=
  l.running = true → ∃ pc, l.thread = some pc ∧ pc ≠ .exited

theorem Alive.step (h : l.Alive) (e : LogEvent) : (l.step e).Alive := by
  cases e with
  | onLogMessage message severity => exact h
  | start =>
    rw [XrtcLog.step, start]
    split_ifs
    · exact h
    · exact fun _ ↦ ⟨.whileRunning, rfl, by decide⟩
  | stop => exact fun hrunning ↦ absurd hrunning Bool.false_ne_true
  | join =>
    rw [XrtcLog.step, join]
    split_ifs with hexited
    · intro hrunning
      obtain ⟨pc, hthread, hpc⟩ := h hrunning
      exact absurd (Option.some.inj (hthread.symm.trans hexited)) hpc
    · exact h
  | writer ok taken =>
    intro hrunning
    rw [XrtcLog.step, XrtcLog.writerStep] at hrunning ⊢
    rcases hthread : l.thread with _ | pc
    · rw [hthread] at hrunning
      obtain ⟨pc, hpc, -⟩ := h hrunning
      exact absurd (hpc.symm.trans hthread) (Option.some_ne_none pc)
    · rw [hthread] at hrunning
      cases pc with
      | whileRunning =>
        have hl : l.running = true := hrunning
        exact ⟨.stat .log, by dsimp only [goto]; rw [if_pos hl], by decide⟩
      | stat k =>
        refine ⟨_, rfl, ?_⟩
        split_ifs
        · simp
        · exact k.afterStat_ne_exited
      | reopen k => exact ⟨_, rfl, k.afterStat_ne_exited⟩
      | drain k => exact ⟨_, rfl, by simp⟩
      | write k writeLog => exact ⟨_, rfl, by simp⟩
      | clear k => exact ⟨_, rfl, k.afterClear_ne_exited⟩
      | exited =>
        obtain ⟨pc, hpc, hne⟩ := h hrunning
        exact absurd (Option.some.inj (hpc.symm.trans hthread)) hne
  | moveFile k => exact h
  | placeFile k => exact h

theorem stepsLeft_le (pc : LogStep) : pc.stepsLeft kind ≤ 12 := by
  cases pc with
  | whileRunning => cases kind <;> decide
  | stat k => cases kind <;> cases k <;> decide
  | reopen k => cases kind <;> cases k <;> decide
  | drain k => cases kind <;> cases k <;> decide
  | write k writeLog => cases kind <;> cases k <;> simp [LogStep.stepsLeft]
  | clear k => cases kind <;> cases k <;> decide
  | exited => cases kind <;> decide

variable {there : LogKind → Bool} {mkdirOk : Bool} {openOk : LogKind → Bool}

theorem alive_run (es : List LogEvent) : (run there mkdirOk openOk es).Alive := by
  refine exec_invariant (I := Alive) (fun _ e h ↦ h.step e) (fun hrunning ↦ ?_) es
  have hstopped : (opened there mkdirOk openOk).running = false := by
    rw [opened, init]
    dsimp only
    split_ifs <;> rfl
  exact absurd (hrunning.symm.trans hstopped) (by decide)

theorem waiting_run (kind : LogKind) {es : List LogEvent}
    (h : (run there mkdirOk openOk es).running = true) :
    Waiting kind 0 12 (run there mkdirOk openOk es) := by
  obtain ⟨pc, hthread, hpc⟩ := alive_run es h
  exact .goto h hthread hpc (stepsLeft_le pc)

/-- **Every message is written.** While the log runs and the system works, there is, within the next
twelve steps of the writer, a moment when every message logged so far is in a file: the files, read
one after the other, are made of all messages but those that came in the meantime and wait. -/
theorem written_run (there : LogKind → Bool) (mkdirOk : Bool) (openOk : LogKind → Bool)
    (hinit : ((new there).init mkdirOk openOk).2 = 0) (es fs : List LogEvent)
    (hworks : Along step Works (opened there mkdirOk openOk) (es ++ fs))
    (hrunning : (run there mkdirOk openOk es).running = true) (hstop : .stop ∉ fs)
    (hsteps : 12 ≤ writerSteps fs) (kind : LogKind) :
    ∃ gs, gs <+: fs ∧ ∃ volumes : Volumes ByteString,
      volumes.flatten = ((run there mkdirOk openOk (es ++ gs)).sides kind).files ∧
      messages kind (es ++ gs) =
        volumes.all ++ ((run there mkdirOk openOk (es ++ gs)).sides kind).queue ∧
      messages kind es <+: volumes.all := by
  obtain ⟨gs, ⟨rest, rfl⟩, hdone⟩ := (waiting_run kind hrunning).finished hstop hsteps
  rw [Nat.zero_add] at hdone
  obtain ⟨-, done, inHand, h⟩ := tracked_run there mkdirOk openOk kind (es ++ gs)
  rw [← List.append_assoc] at hworks
  obtain ⟨-, -, volumes, hflat, hall⟩ := h.files.whole ⟨hinit, (along_append.mp hworks).1⟩
  have hstate : exec step (run there mkdirOk openOk es) gs = run there mkdirOk openOk (es ++ gs) :=
    (exec_append _ es gs).symm
  rw [hstate] at hdone
  have hinHand := h.stream
  rw [if_neg hdone.thread] at hinHand
  have hmessages := h.messages
  rw [hinHand, List.append_nil, ← hall] at hmessages
  refine ⟨gs, ⟨rest, rfl⟩, volumes, hflat, hmessages, ?_⟩
  have hsplit : messages kind (es ++ gs) = messages kind es ++ messages kind gs :=
    List.filterMap_append
  refine List.prefix_of_prefix_length_le ⟨_, hsplit.symm⟩ ⟨_, hmessages.symm⟩ ?_
  have hlength := congrArg List.length (hsplit.symm.trans hmessages)
  rw [List.length_append, List.length_append] at hlength
  have hqueue := hdone.queue
  omega

/-- While the writer is at the queues the file is moved away, and another message comes. -/
def movedRun : List LogEvent :=
  List.replicate 4 (.writer true 80) ++ [.moveFile .log, .onLogMessage (lit "b") .verbose] ++
    List.replicate 8 (.writer true 80)

theorem written_movedRun : ∃ gs, gs <+: movedRun ∧ ∃ volumes : Volumes ByteString,
    volumes.flatten = ((run (fun _ ↦ false) true (fun _ ↦ true)
      ([.start, .onLogMessage (lit "a") .info] ++ gs)).sides .log).files ∧
    messages .log ([.start, .onLogMessage (lit "a") .info] ++ gs) =
      volumes.all ++ ((run (fun _ ↦ false) true (fun _ ↦ true)
        ([.start, .onLogMessage (lit "a") .info] ++ gs)).sides .log).queue ∧
    messages .log [.start, .onLogMessage (lit "a") .info] <+: volumes.all := by
  refine written_run (fun _ ↦ false) true (fun _ ↦ true) (by decide)
    [.start, .onLogMessage (lit "a") .info] movedRun ?_ rfl ?_ ?_ .log
  · simp only [movedRun, List.replicate, List.cons_append, List.nil_append, along_cons, along_nil,
      Works, true_and, and_true]
    decide
  · simp [movedRun]
  · decide

end XrtcLog

end XrtcServer
