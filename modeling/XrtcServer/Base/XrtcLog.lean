import XrtcServer.Base.ByteString
import XrtcServer.Lib.EventRun
import XrtcServer.Lib.Volumes

/-!
# The log

`XrtcLog` (`base/log.cpp`) has two files, one for warnings and errors and one for the other
messages. Any thread may log; it puts its message into the queue of the file, under a mutex. A
thread of the log writes: in turns it looks whether the two files are still there, and opens those
that are gone again; then, for one file after the other, it empties the queue into a string stream,
writes the stream to the file and clears it. Both files share the stream.

## Steps

A step of the writer is one of these actions. Between any two of them others may log, somebody may
move a file away, put another one at its path, or ask the writer to stop. A file that was moved is
still open, so what is written until the next look goes to the moved file; the path and the open
file are two things (`Lib/Volumes.lean`).

## Where a message is

`messages` are those that were logged, and `files_run` says where they are in any state of a run:
written, in the stream, or in the queue. The stream is shared, so the account of one file needs that
the stream is empty whenever the writer turns to it (`ClearStream`); this is the one fact that
connects the two files, and it is kept by every step.
-/

namespace XrtcServer

open EventRun

/-- `rtc::LoggingSeverity`. -/
inductive LoggingSeverity
  | verbose
  | info
  | warning
  | error
  | none
deriving DecidableEq

def LoggingSeverity.value : LoggingSeverity → ℕ
  | verbose => 0
  | info => 1
  | warning => 2
  | error => 3
  | none => 4

/-- The two files, `<name>.log` and `<name>.log.wf`. -/
inductive LogKind
  | log
  | wf
deriving DecidableEq

def LoggingSeverity.kind (severity : LoggingSeverity) : LogKind :=
  if warning.value ≤ severity.value then .wf else .log

/-- Where the writer is: what it does next. -/
inductive LogStep
  /-- `while (_running)`, after the pause. -/
  | whileRunning
  /-- `stat`. -/
  | stat (kind : LogKind)
  /-- `close` and `open`. -/
  | reopen (kind : LogKind)
  /-- The loop over the queue, under the mutex. -/
  | drain (kind : LogKind)
  /-- `if (write_log)`, `<<` and `flush`. -/
  | write (kind : LogKind) (writeLog : Bool)
  /-- `ss.str("")`. -/
  | clear (kind : LogKind)
  | exited
deriving DecidableEq

def LogKind.afterStat : LogKind → LogStep
  | log => .stat .wf
  | wf => .drain .log

def LogKind.afterClear : LogKind → LogStep
  | log => .drain .wf
  | wf => .whileRunning

/-- What there is twice, once for each file. -/
structure LogSide where
  /-- `_log_queue`, `_log_queue_wf`. -/
  queue : List ByteString := []
  /-- `_out_file`, `_out_file_wf`, and what the log has put into the files at its path. -/
  files : Volumes UInt8
  /-- None of the error bits of the file stream is set. -/
  good : Bool := true

namespace LogSide

variable (s : LogSide)

/-- `open` with `std::ios::app`, which makes the file if there is none. -/
def openFile (ok : Bool) : LogSide :=
  if ok then
    let files := if s.files.path.isNone then s.files.create else s.files
    { s with files := files.openPath, good := true }
  else { s with files := s.files.close, good := false }

/-- `<<` and `flush`; the file takes the first `taken` bytes. -/
def put (bytes : ByteString) (taken : ℕ) : LogSide :=
  if s.good && s.files.current.isSome then
    { s with files := s.files.append (bytes.take taken), good := bytes.length ≤ taken }
  else { s with good := false }

theorem queue_openFile (ok : Bool) : (s.openFile ok).queue = s.queue := by
  cases ok <;> rfl

theorem queue_put (bytes : ByteString) (taken : ℕ) : (s.put bytes taken).queue = s.queue := by
  rw [put]
  split_ifs <;> rfl

end LogSide

structure XrtcLog where
  sides : LogKind → LogSide
  running : Bool := false
  /-- `_thread`. -/
  thread : Option LogStep := none
  /-- The string stream of the thread. -/
  ss : ByteString := []

namespace XrtcLog

variable (l : XrtcLog)

def modifySide (kind : LogKind) (f : LogSide → LogSide) : XrtcLog :=
  { l with sides := Function.update l.sides kind (f (l.sides kind)) }

/-- The constructor; `there` says which of the files exist. -/
def new (there : LogKind → Bool) : XrtcLog where
  sides kind := { files := .empty _ (there kind) }

/-- `init`; the arguments are what `mkdir` and `open` come to. -/
def init (mkdirOk : Bool) (openOk : LogKind → Bool) : XrtcLog × ℤ :=
  if !mkdirOk then (l, -1)
  else
    let l := l.modifySide .log fun s ↦ s.openFile (openOk .log)
    if !openOk .log then (l, -1)
    else
      let l := l.modifySide .wf fun s ↦ s.openFile (openOk .wf)
      if !openOk .wf then (l, -1) else (l, 0)

/-- `OnLogMessage`. -/
def onLogMessage (message : ByteString) (severity : LoggingSeverity) : XrtcLog :=
  l.modifySide severity.kind fun s ↦ { s with queue := s.queue ++ [message] }

/-- `start`, which asks `_running` only. The other test leaves out a `start` while `stop` is waiting
for the old thread, which would get a second one beside it. -/
def start : XrtcLog :=
  if l.running || l.thread.isSome then l
  else { l with running := true, thread := some .whileRunning, ss := [] }

/-- `stop` up to `join`. -/
def stop : XrtcLog := { l with running := false }

/-- `join` returns when the thread has ended. -/
def join : XrtcLog := if l.thread = some .exited then { l with thread := none } else l

def goto (pc : LogStep) : XrtcLog := { l with thread := some pc }

/-- The next step of the thread. -/
def writerStep (ok : Bool) (taken : ℕ) : XrtcLog :=
  match l.thread with
  | none => l
  | some .whileRunning => l.goto (if l.running then .stat .log else .exited)
  | some (.stat kind) =>
    l.goto (if (l.sides kind).files.path.isNone then .reopen kind else kind.afterStat)
  | some (.reopen kind) => (l.modifySide kind fun s ↦ s.openFile ok).goto kind.afterStat
  | some (.drain kind) =>
    let queue := (l.sides kind).queue
    { l.modifySide kind fun s ↦ { s with queue := [] } with
      ss := l.ss ++ queue.flatten
      thread := some (.write kind !queue.isEmpty) }
  | some (.write kind writeLog) =>
    (if writeLog then l.modifySide kind fun s ↦ s.put l.ss taken else l).goto (.clear kind)
  | some (.clear kind) => { l with ss := [], thread := some kind.afterClear }
  | some .exited => l

end XrtcLog

inductive LogEvent
  | onLogMessage (message : ByteString) (severity : LoggingSeverity)
  | start
  | stop
  | join
  /-- A step of the thread, whether `open` succeeds then, and how many bytes a file takes. -/
  | writer (ok : Bool) (taken : ℕ)
  /-- The file is moved away or deleted. -/
  | moveFile (kind : LogKind)
  /-- Somebody puts another file at the path. -/
  | placeFile (kind : LogKind)

namespace XrtcLog

def step (l : XrtcLog) : LogEvent → XrtcLog
  | .onLogMessage message severity => l.onLogMessage message severity
  | .start => l.start
  | .stop => l.stop
  | .join => l.join
  | .writer ok taken => l.writerStep ok taken
  | .moveFile kind => l.modifySide kind fun s ↦ { s with files := s.files.vacate }
  | .placeFile kind => l.modifySide kind fun s ↦ { s with files := s.files.create }

/-- The system does what it is asked: files can be opened, and take all bytes. -/
def Works (l : XrtcLog) : LogEvent → Prop
  | .writer ok taken => ok = true ∧ l.ss.length ≤ taken
  | _ => True

end XrtcLog

/-- The message that the event puts into the queue of this file. -/
def LogEvent.messageFor (kind : LogKind) : LogEvent → Option ByteString
  | onLogMessage message severity => if severity.kind = kind then some message else none
  | _ => none

/-- The messages for this file, oldest first. -/
def messages (kind : LogKind) (es : List LogEvent) : List ByteString :=
  es.filterMap (LogEvent.messageFor kind)

/-! ## What is in the files

`Holds` has one part that is true whatever the system answers, that nothing else is in the files,
and one that needs files that can be opened and take all bytes. The second is an implication, so
that both go through the same induction. -/

/-- The writer has written the messages `done`. Nothing else is in the files; and if the system has
worked so far, the files are made of these messages, and each message is in one file. -/
structure LogSide.Holds (works : Prop) (done : List ByteString) (s : LogSide) : Prop where
  sublist : s.files.all.Sublist done.flatten
  whole : works → s.good = true ∧ s.files.current.isSome = true ∧
    ∃ volumes : Volumes ByteString, volumes.flatten = s.files ∧ volumes.all = done

namespace LogSide.Holds

variable {works works' : Prop} {done : List ByteString} {s : LogSide}

theorem mono (h : s.Holds works done) (hw : works' → works) : s.Holds works' done :=
  ⟨h.sublist, fun hw' ↦ h.whole (hw hw')⟩

theorem setQueue (h : s.Holds works done) (queue : List ByteString) :
    LogSide.Holds works done { s with queue } := ⟨h.sublist, h.whole⟩

theorem vacate (h : s.Holds works done) :
    LogSide.Holds works done { s with files := s.files.vacate } := by
  refine ⟨h.sublist, fun hw ↦ ?_⟩
  obtain ⟨hgood, hcurrent, volumes, hflat, hall⟩ := h.whole hw
  exact ⟨hgood, hcurrent, volumes.vacate, hflat ▸ rfl, hall⟩

theorem create (h : s.Holds works done) :
    LogSide.Holds works done { s with files := s.files.create } := by
  refine ⟨Volumes.all_create.symm ▸ h.sublist, fun hw ↦ ?_⟩
  obtain ⟨hgood, hcurrent, volumes, hflat, hall⟩ := h.whole hw
  exact ⟨hgood, hcurrent, volumes.create, hflat ▸ rfl, Volumes.all_create.trans hall⟩

theorem openPath (h : s.Holds works done) (hpath : s.files.path.isSome = true) :
    LogSide.Holds works done { s with files := s.files.openPath, good := true } := by
  refine ⟨h.sublist, fun hw ↦ ?_⟩
  obtain ⟨-, -, volumes, hflat, hall⟩ := h.whole hw
  exact ⟨rfl, hpath, volumes.openPath, hflat ▸ rfl, hall⟩

theorem openFile (h : s.Holds works done) {ok : Bool} (hok : works → ok = true) :
    (s.openFile ok).Holds works done := by
  rw [LogSide.openFile]
  cases ok with
  | true =>
    rw [if_pos rfl]
    dsimp only
    split_ifs with hpath
    · exact h.create.openPath rfl
    · refine h.openPath ?_
      rw [Bool.not_eq_true, Option.isNone_eq_false_iff] at hpath
      exact hpath
  | false => exact ⟨h.sublist, fun hw ↦ nomatch hok hw⟩

theorem put (h : s.Holds works done) {ms : List ByteString} {taken : ℕ}
    (htaken : works → ms.flatten.length ≤ taken) :
    (s.put ms.flatten taken).Holds works (done ++ ms) := by
  rw [LogSide.put]
  split_ifs with hopen
  · obtain ⟨f, hf⟩ := Option.isSome_iff_exists.mp (Bool.and_eq_true_iff.mp hopen).2
    constructor
    · rw [List.flatten_append]
      dsimp only
      rw [Volumes.all_append hf]
      exact h.sublist.append (List.take_sublist _ _)
    · intro hw
      obtain ⟨-, hcurrent, volumes, hflat, hall⟩ := h.whole hw
      refine ⟨decide_eq_true (htaken hw), hcurrent, volumes.append ms, ?_, ?_⟩
      · rw [Volumes.flatten_append, hflat, List.take_of_length_le (htaken hw)]
      · have hcurrent' : volumes.current = some f := (congrArg Volumes.current hflat).trans hf
        rw [Volumes.all_append hcurrent', hall]
  · constructor
    · rw [List.flatten_append]
      exact h.sublist.trans (List.sublist_append_left _ _)
    · intro hw
      obtain ⟨hgood, hcurrent, -⟩ := h.whole hw
      exact absurd (Bool.and_eq_true_iff.mpr ⟨hgood, hcurrent⟩) hopen

end LogSide.Holds

/-! ## Where the messages are

Each step of the writer moves messages from one place of the account to the next or leaves them
where they are, and a step that is about the other file touches neither. -/

namespace XrtcLog

variable {works : Prop} {kind : LogKind} {ms done inHand : List ByteString} {l : XrtcLog}

@[simp] theorem sides_modifySide_self (f : LogSide → LogSide) :
    (l.modifySide kind f).sides kind = f (l.sides kind) := Function.update_self ..

theorem sides_modifySide_of_ne {k : LogKind} (h : kind ≠ k) (f : LogSide → LogSide) :
    (l.modifySide k f).sides kind = l.sides kind := Function.update_of_ne h ..

/-- The stream is empty but from the loop over a queue until it is cleared. -/
def ClearStream (l : XrtcLog) : Prop :=
  l.ss = [] ∨ l.thread = none ∨ ∃ k, l.thread = some (.write k true) ∨ l.thread = some (.clear k)

/-- The messages `ms` were logged: `done` is written, the writer has `inHand` in the stream, and the
others wait. -/
structure Account (works : Prop) (kind : LogKind) (ms done inHand : List ByteString)
    (l : XrtcLog) : Prop where
  messages : ms = done ++ inHand ++ (l.sides kind).queue
  files : (l.sides kind).Holds works done
  stream : if l.thread = some (.write kind true) then l.ss = inHand.flatten else inHand = []

theorem ClearStream.ss_eq_nil (h : l.ClearStream) {pc : LogStep} (hthread : l.thread = some pc)
    (hpc : ∀ k, pc ≠ .write k true ∧ pc ≠ .clear k) : l.ss = [] := by
  rcases h with h | h | ⟨k, h | h⟩
  · exact h
  · cases h.symm.trans hthread
  · exact absurd (Option.some.inj (hthread.symm.trans h)) (hpc k).1
  · exact absurd (Option.some.inj (hthread.symm.trans h)) (hpc k).2

theorem clearStream_writerStep (h : l.ClearStream) (ok : Bool) (taken : ℕ) :
    (l.writerStep ok taken).ClearStream := by
  rw [writerStep]
  rcases hthread : l.thread with _ | pc
  · exact h
  have hempty := h.ss_eq_nil hthread
  cases pc with
  | whileRunning => exact .inl (hempty fun k ↦ ⟨nofun, nofun⟩)
  | stat k => exact .inl (hempty fun k ↦ ⟨nofun, nofun⟩)
  | reopen k => exact .inl (hempty fun k ↦ ⟨nofun, nofun⟩)
  | drain k =>
    rcases hqueue : (l.sides k).queue with _ | ⟨message, queue⟩
    · refine .inl ?_
      dsimp only
      rw [hqueue, List.flatten_nil, List.append_nil]
      exact hempty fun k ↦ ⟨nofun, nofun⟩
    · refine .inr (.inr ⟨k, .inl ?_⟩)
      dsimp only
      rw [hqueue]
      rfl
  | write k writeLog => exact .inr (.inr ⟨k, .inr rfl⟩)
  | clear k => exact .inl rfl
  | exited => exact h

theorem clearStream_step (h : l.ClearStream) (e : LogEvent) : (l.step e).ClearStream := by
  cases e with
  | onLogMessage message severity => exact h
  | start =>
    rw [step, start]
    split_ifs
    · exact h
    · exact .inl rfl
  | stop => exact h
  | join =>
    rw [step, join]
    split_ifs
    · exact .inr (.inl rfl)
    · exact h
  | writer ok taken => exact clearStream_writerStep h ok taken
  | moveFile k => exact h
  | placeFile k => exact h

namespace Account

theorem modifySide (h : Account works kind ms done inHand l) (k : LogKind) {f : LogSide → LogSide}
    (hqueue : ∀ s, (f s).queue = s.queue) (hf : ∀ s, s.Holds works done → (f s).Holds works done) :
    Account works kind ms done inHand (l.modifySide k f) := by
  by_cases hk : kind = k
  · subst hk
    refine ⟨?_, ?_, h.stream⟩
    · rw [sides_modifySide_self, hqueue]
      exact h.messages
    · rw [sides_modifySide_self]
      exact hf _ h.files
  · refine ⟨?_, ?_, h.stream⟩
    · rw [sides_modifySide_of_ne hk]
      exact h.messages
    · rw [sides_modifySide_of_ne hk]
      exact h.files

theorem setThread (h : Account works kind ms done inHand l)
    (hold : l.thread ≠ some (.write kind true)) {thread : Option LogStep}
    (hnew : thread ≠ some (.write kind true)) (ss : ByteString) :
    Account works kind ms done inHand { l with thread, ss } where
  messages := h.messages
  files := h.files
  stream := by
    have hinHand := h.stream
    rw [if_neg hold] at hinHand
    rwa [if_neg hnew]

theorem onLogMessage (h : Account works kind ms done inHand l) (message : ByteString)
    (severity : LoggingSeverity) :
    Account works kind (ms ++ (LogEvent.messageFor kind (.onLogMessage message severity)).toList)
      done inHand (l.onLogMessage message severity) := by
  rw [LogEvent.messageFor]
  by_cases hk : severity.kind = kind
  · rw [if_pos hk, Option.toList_some]
    subst hk
    refine ⟨?_, ?_, h.stream⟩
    · rw [XrtcLog.onLogMessage, sides_modifySide_self, ← List.append_assoc, ← h.messages]
    · rw [XrtcLog.onLogMessage, sides_modifySide_self]
      exact h.files.setQueue _
  · rw [if_neg hk, Option.toList_none, List.append_nil]
    refine ⟨?_, ?_, h.stream⟩
    · rw [XrtcLog.onLogMessage, sides_modifySide_of_ne (Ne.symm hk)]
      exact h.messages
    · rw [XrtcLog.onLogMessage, sides_modifySide_of_ne (Ne.symm hk)]
      exact h.files

theorem drain {k : LogKind} (h : Account works kind ms done inHand l) (hss : l.ss = [])
    (hold : l.thread ≠ some (.write kind true)) :
    ∃ done' inHand', Account works kind ms done' inHand'
      { l.modifySide k fun s ↦ { s with queue := [] } with
        ss := l.ss ++ (l.sides k).queue.flatten
        thread := some (.write k !(l.sides k).queue.isEmpty) } := by
  have hinHand := h.stream
  rw [if_neg hold] at hinHand
  by_cases hk : kind = k
  · subst hk
    refine ⟨done, (l.sides kind).queue, ?_, ?_, ?_⟩
    · dsimp only
      rw [sides_modifySide_self, List.append_nil, h.messages, hinHand, List.append_nil]
    · dsimp only
      rw [sides_modifySide_self]
      exact h.files.setQueue _
    · dsimp only
      rw [hss, List.nil_append]
      rcases (l.sides kind).queue with _ | ⟨message, queue⟩ <;> split_ifs with hwrite
      · rfl
      · rfl
      · rfl
      · exact absurd rfl hwrite
  · refine ⟨done, inHand, ?_, ?_, ?_⟩
    · dsimp only
      rw [sides_modifySide_of_ne hk]
      exact h.messages
    · dsimp only
      rw [sides_modifySide_of_ne hk]
      exact h.files
    · rw [if_neg ?_]
      · exact hinHand
      · intro heq
        exact hk (LogStep.write.inj (Option.some.inj heq)).1.symm

theorem write {k : LogKind} (h : Account works kind ms done inHand l)
    (hthread : l.thread = some (.write k true)) {taken : ℕ} (htaken : works → l.ss.length ≤ taken) :
    ∃ done' inHand', Account works kind ms done' inHand'
      ((l.modifySide k fun s ↦ s.put l.ss taken).goto (.clear k)) := by
  have hstream := h.stream
  by_cases hk : kind = k
  · subst hk
    rw [if_pos hthread] at hstream
    have hcleared : some (LogStep.clear kind) ≠ some (.write kind true) := nofun
    refine ⟨done ++ inHand, [], ?_, ?_, if_neg hcleared ▸ rfl⟩
    · dsimp only [goto]
      rw [sides_modifySide_self, LogSide.queue_put, List.append_nil]
      exact h.messages
    · dsimp only [goto]
      rw [sides_modifySide_self, hstream]
      exact h.files.put fun hw ↦ hstream ▸ htaken hw
  · rw [if_neg ?_] at hstream
    · have hcleared : some (LogStep.clear k) ≠ some (.write kind true) := nofun
      refine ⟨done, inHand, ?_, ?_, if_neg hcleared ▸ hstream⟩
      · dsimp only [goto]
        rw [sides_modifySide_of_ne hk]
        exact h.messages
      · dsimp only [goto]
        rw [sides_modifySide_of_ne hk]
        exact h.files
    · rw [hthread]
      intro heq
      exact hk (LogStep.write.inj (Option.some.inj heq)).1.symm

theorem writerStep (h : Account works kind ms done inHand l) (hclear : l.ClearStream) {ok : Bool}
    {taken : ℕ} (hworks : works → ok = true ∧ l.ss.length ≤ taken) :
    ∃ done' inHand', Account works kind ms done' inHand' (l.writerStep ok taken) := by
  rw [XrtcLog.writerStep]
  rcases hthread : l.thread with _ | pc
  · exact ⟨done, inHand, h⟩
  have hold (hne : pc ≠ .write kind true) : l.thread ≠ some (.write kind true) := by
    rw [hthread]
    exact fun heq ↦ hne (Option.some.inj heq)
  cases pc with
  | whileRunning =>
    refine ⟨done, inHand, h.setThread (hold nofun) ?_ _⟩
    split_ifs <;> exact nofun
  | stat k =>
    refine ⟨done, inHand, h.setThread (hold nofun) ?_ _⟩
    cases k <;> split_ifs <;> exact nofun
  | reopen k =>
    have hopened : Account works kind ms done inHand (l.modifySide k fun s ↦ s.openFile ok) :=
      h.modifySide k (fun s ↦ s.queue_openFile ok) fun s hs ↦ hs.openFile fun hw ↦ (hworks hw).1
    refine ⟨done, inHand, hopened.setThread (hold nofun) ?_ _⟩
    cases k <;> exact nofun
  | drain k => exact h.drain (hclear.ss_eq_nil hthread fun k ↦ ⟨nofun, nofun⟩) (hold nofun)
  | write k writeLog =>
    cases writeLog with
    | false =>
      refine ⟨done, inHand, h.setThread (hold ?_) ?_ _⟩ <;> exact nofun
    | true => exact h.write hthread fun hw ↦ (hworks hw).2
  | clear k =>
    refine ⟨done, inHand, h.setThread (hold nofun) ?_ _⟩
    cases k <;> exact nofun
  | exited => exact ⟨done, inHand, h⟩

/-- **One event.** -/
theorem step (h : Account works kind ms done inHand l) (hclear : l.ClearStream) {e : LogEvent}
    (hworks : works → l.Works e) :
    ∃ done' inHand', Account works kind (ms ++ (e.messageFor kind).toList) done' inHand'
      (l.step e) := by
  cases e with
  | onLogMessage message severity => exact ⟨done, inHand, h.onLogMessage message severity⟩
  | start =>
    dsimp only [LogEvent.messageFor, Option.toList]
    rw [List.append_nil, XrtcLog.step, start]
    refine ⟨done, inHand, ?_⟩
    split_ifs with hrunning
    · exact h
    · have hold : l.thread ≠ some (.write kind true) := by
        intro heq
        rw [heq] at hrunning
        exact hrunning (Bool.or_true _)
      have hnew : some LogStep.whileRunning ≠ some (.write kind true) := nofun
      have hstarted := h.setThread hold hnew []
      exact ⟨hstarted.messages, hstarted.files, hstarted.stream⟩
  | stop =>
    dsimp only [LogEvent.messageFor, Option.toList]
    rw [List.append_nil]
    exact ⟨done, inHand, h.messages, h.files, h.stream⟩
  | join =>
    dsimp only [LogEvent.messageFor, Option.toList]
    rw [List.append_nil, XrtcLog.step, join]
    refine ⟨done, inHand, ?_⟩
    split_ifs with hexited
    · have hold : l.thread ≠ some (.write kind true) := by
        rw [hexited]
        exact nofun
      have hnew : (none : Option LogStep) ≠ some (.write kind true) := nofun
      exact h.setThread hold hnew l.ss
    · exact h
  | writer ok taken =>
    dsimp only [LogEvent.messageFor, Option.toList]
    rw [List.append_nil]
    exact h.writerStep hclear hworks
  | moveFile k =>
    dsimp only [LogEvent.messageFor, Option.toList]
    rw [List.append_nil]
    refine ⟨done, inHand, ?_⟩
    exact h.modifySide k (f := fun s ↦ { s with files := s.files.vacate }) (fun _ ↦ rfl)
      fun _ hs ↦ hs.vacate
  | placeFile k =>
    dsimp only [LogEvent.messageFor, Option.toList]
    rw [List.append_nil]
    refine ⟨done, inHand, ?_⟩
    exact h.modifySide k (f := fun s ↦ { s with files := s.files.create }) (fun _ ↦ rfl)
      fun _ hs ↦ hs.create

theorem mono {works' : Prop} (h : Account works kind ms done inHand l) (hw : works' → works) :
    Account works' kind ms done inHand l := ⟨h.messages, h.files.mono hw, h.stream⟩

end Account

/-! ## Runs

A run starts behind `init`, which may fail; the account does not depend on it. What depends on it is
whether the files are whole. -/

/-- A log whose `init` is over; `there` says which of the files existed before. -/
def opened (there : LogKind → Bool) (mkdirOk : Bool) (openOk : LogKind → Bool) : XrtcLog :=
  ((new there).init mkdirOk openOk).1

/-- The state after a run. -/
def run (there : LogKind → Bool) (mkdirOk : Bool) (openOk : LogKind → Bool)
    (es : List LogEvent) : XrtcLog := exec step (opened there mkdirOk openOk) es

variable {there : LogKind → Bool} {mkdirOk : Bool} {openOk : LogKind → Bool}

theorem holds_new (there : Bool) : LogSide.Holds False [] { files := .empty _ there } :=
  ⟨(Volumes.all_empty there).symm ▸ .slnil, False.elim⟩

theorem holds_opened (there : Bool) :
    LogSide.Holds True [] (LogSide.openFile { files := .empty _ there } true) := by
  cases there with
  | true => exact ⟨.slnil, fun _ ↦ ⟨rfl, rfl, (Volumes.empty _ true).openPath, rfl, rfl⟩⟩
  | false => exact ⟨.slnil, fun _ ↦ ⟨rfl, rfl, (Volumes.empty _ false).create.openPath, rfl, rfl⟩⟩

theorem thread_opened : (opened there mkdirOk openOk).thread = none := by
  rw [opened, init]
  dsimp only
  split_ifs <;> rfl

theorem queue_opened (kind : LogKind) : ((opened there mkdirOk openOk).sides kind).queue = [] := by
  have hside (l : XrtcLog) (k : LogKind) (ok : Bool) (h : (l.sides kind).queue = []) :
      ((l.modifySide k fun s ↦ s.openFile ok).sides kind).queue = [] := by
    by_cases hk : kind = k
    · subst hk
      rw [sides_modifySide_self, LogSide.queue_openFile, h]
    · rw [sides_modifySide_of_ne hk, h]
  rw [opened, init]
  dsimp only
  split_ifs
  · rfl
  · exact hside _ _ _ rfl
  · exact hside _ _ _ (hside _ _ _ rfl)
  · exact hside _ _ _ (hside _ _ _ rfl)

/-- If `init` succeeds, both files are open; in any case nothing is in them. -/
theorem holds_sides_opened (kind : LogKind) :
    ((opened there mkdirOk openOk).sides kind).Holds (((new there).init mkdirOk openOk).2 = 0)
      [] := by
  have hside (l : XrtcLog) (k : LogKind) (ok : Bool) (h : (l.sides kind).Holds False []) :
      ((l.modifySide k fun s ↦ s.openFile ok).sides kind).Holds False [] := by
    by_cases hk : kind = k
    · subst hk
      rw [sides_modifySide_self]
      exact h.openFile False.elim
    · rwa [sides_modifySide_of_ne hk]
  have hnew : ((new there).sides kind).Holds False [] := holds_new (there kind)
  have hfail : (-1 : ℤ) ≠ 0 := by decide
  rw [opened, init]
  dsimp only
  split_ifs with hmkdir hlog hwf
  · exact hnew.mono hfail
  · exact (hside _ _ _ hnew).mono hfail
  · exact (hside _ _ _ (hside _ _ _ hnew)).mono hfail
  · rw [Bool.not_eq_true', Bool.not_eq_false] at hlog hwf
    rw [hlog, hwf]
    refine LogSide.Holds.mono ?_ fun _ ↦ trivial
    have hne : LogKind.log ≠ .wf := nofun
    cases kind with
    | log =>
      dsimp only
      rw [sides_modifySide_of_ne hne, sides_modifySide_self]
      exact holds_opened _
    | wf =>
      dsimp only
      rw [sides_modifySide_self, sides_modifySide_of_ne hne.symm]
      exact holds_opened _

theorem account_opened (there : LogKind → Bool) (mkdirOk : Bool) (openOk : LogKind → Bool)
    (kind : LogKind) :
    Account (((new there).init mkdirOk openOk).2 = 0) kind [] [] []
      (opened there mkdirOk openOk) where
  messages := (queue_opened kind).symm
  files := holds_sides_opened kind
  stream := by
    rw [thread_opened, if_neg nofun]

/-- What is known of the messages for a file after a run. -/
def Tracked (there : LogKind → Bool) (mkdirOk : Bool) (openOk : LogKind → Bool) (kind : LogKind)
    (es : List LogEvent) (l : XrtcLog) : Prop :=
  l.ClearStream ∧ ∃ done inHand, Account (((new there).init mkdirOk openOk).2 = 0 ∧
    Along step Works (opened there mkdirOk openOk) es) kind (messages kind es) done inHand l

theorem tracked_run (there : LogKind → Bool) (mkdirOk : Bool) (openOk : LogKind → Bool)
    (kind : LogKind) (es : List LogEvent) :
    Tracked there mkdirOk openOk kind es (run there mkdirOk openOk es) := by
  refine exec_induction (J := Tracked there mkdirOk openOk kind) ⟨.inr (.inl thread_opened), [], [],
    (account_opened there mkdirOk openOk kind).mono And.left⟩ (fun es e ih ↦ ?_) es
  obtain ⟨hclear, done, inHand, h⟩ := ih
  have hmessages : messages kind (es ++ [e]) =
      messages kind es ++ (e.messageFor kind).toList := by
    rw [messages, messages, List.filterMap_append]
    rcases hm : e.messageFor kind with _ | message <;> simp [hm]
  refine ⟨clearStream_step hclear e, ?_⟩
  rw [hmessages]
  refine Account.step (h.mono fun hw ↦ ?_) hclear fun hw ↦ ?_
  · exact ⟨hw.1, (along_append.mp hw.2).1⟩
  · exact (along_append.mp hw.2).2.1

/-- **Where every message is.** In any state of a run, the messages for a file are, in the order in
which they were logged, those that were written, those that the writer has in its hands, and those
that wait. Nothing but bytes of written messages is in the files, in that order. If the system has
worked so far, the files, read one after the other, are exactly the written messages, and no message
is cut in two. -/
theorem files_run (there : LogKind → Bool) (mkdirOk : Bool) (openOk : LogKind → Bool)
    (es : List LogEvent) (kind : LogKind) :
    ∃ done inHand, messages kind es =
        done ++ inHand ++ ((run there mkdirOk openOk es).sides kind).queue ∧
      ((run there mkdirOk openOk es).thread ≠ some (.write kind true) → inHand = []) ∧
      ((run there mkdirOk openOk es).sides kind).files.all.Sublist done.flatten ∧
      (((new there).init mkdirOk openOk).2 = 0 →
        Along step Works (opened there mkdirOk openOk) es →
        ∃ volumes : Volumes ByteString, volumes.all = done ∧
          volumes.flatten = ((run there mkdirOk openOk es).sides kind).files) := by
  obtain ⟨-, done, inHand, h⟩ := tracked_run there mkdirOk openOk kind es
  refine ⟨done, inHand, h.messages, fun hthread ↦ ?_, h.files.sublist, fun hinit halong ↦ ?_⟩
  · have hstream := h.stream
    rwa [if_neg hthread] at hstream
  · obtain ⟨-, -, volumes, hflat, hall⟩ := h.files.whole ⟨hinit, halong⟩
    exact ⟨volumes, hall, hflat⟩

/-- A message, a round of the writer, and the file is moved away; then the same again. -/
def rotatedRun : List LogEvent :=
  [.start, .onLogMessage (lit "a") .info] ++ List.replicate 9 (.writer true 80) ++
    [.moveFile .log, .onLogMessage (lit "b") .verbose] ++ List.replicate 10 (.writer true 80)

example : (fun l ↦ (l.files.entries 0, l.files.entries 1, l.queue))
    ((run (fun _ ↦ false) true (fun _ ↦ true) rotatedRun).sides .log) =
      (lit "a", lit "b", []) := by decide

end XrtcLog

end XrtcServer
