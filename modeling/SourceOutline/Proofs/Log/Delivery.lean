import SourceOutline.Proofs.Log.Blocks

/-!
# Who gets the events of a log

Logging is configured again and again, blocks that keep the terminal quiet are entered and
left on several threads, and events are told in between.  What a journal has become after
all this depends on two things only: on the last settings, and on how many blocks each
thread has entered and not left.  Each step keeps this, so it holds after every history.

An event therefore goes once to each output of the last settings that it reaches.  Where
these have no output at all, a warning and anything worse goes to the standard error stream
as a last resort, whatever blocks are open.  Nothing else is written.

The library behind the log is left open, but for the levels that it lets through.
-/

namespace SourceOutline

/-- Loggers that are made for a level let through what is at least as severe. -/
def LogLibrary.FiltersLevels (library : LogLibrary) : Prop :=
  ∀ gate level : Level, library.passes gate.severity level.severity = true ↔
    gate.severity ≤ level.severity

theorem LogLibrary.usual_filtersLevels : LogLibrary.usual.FiltersLevels :=
  fun _ _ => decide_eq_true_iff

namespace Journal

variable {library : LogLibrary}

def Step.settings? : Step → Option LoggingSettings
  | .configure settings => some settings
  | _ => none

def lastSettings (history : List Step) : Option LoggingSettings :=
  (history.filterMap Step.settings?).getLast?

theorem lastSettings_append_singleton (history : List Step) (last : Step) :
    lastSettings (history ++ [last]) = last.settings?.or (lastSettings history) := by
  cases last <;> simp [lastSettings, Step.settings?]

/-! ## What a journal has become -/

/-- A journal is as a history says. -/
structure Reflects (journal : Journal) (history : List Step) : Prop where
  gate : journal.gate = (lastSettings history).map fun settings => settings.level.severity
  level : ∀ settings, lastSettings history = some settings →
    journal.level = settings.level.severity
  handlers : ∀ settings, lastSettings history = some settings →
    journal.handlers = settings.outputs.map (Handler.ofOutput settings.level)
  displays : ∀ thread, (journal.threads thread).displays = balance thread history
  runId : ∀ thread, journal.runId thread = none

theorem reflects_nil : Reflects {} [] := by
  constructor <;> simp [lastSettings, balance, runId]

section
variable {journal : Journal} {history : List Step}

def filesOf (outputs : List LogOutput) : List String :=
  (outputs.filter fun output => !output.isStream).map LogOutput.destination

theorem addOutput_foldl (journal : Journal) (level : Level) (outputs : List LogOutput) :
    outputs.foldl (fun journal output => journal.addOutput level output) journal =
      { journal with
        handlers := journal.handlers ++ outputs.map (Handler.ofOutput level)
        opened := journal.opened ++ filesOf outputs } := by
  induction outputs generalizing journal with
  | nil => simp [filesOf]
  | cons output rest ih =>
      rw [List.foldl_cons, ih]
      by_cases hstream : output.isStream <;> simp [addOutput, filesOf, hstream]

/-- Nothing is left of what was configured before. -/
theorem configure_eq (journal : Journal) (settings : LoggingSettings) :
    journal.configure settings =
      { journal with
        gate := some settings.level.severity
        level := settings.level.severity
        handlers := settings.outputs.map (Handler.ofOutput settings.level)
        opened := journal.opened ++ filesOf settings.outputs } := by
  rw [configure, addOutput_foldl, List.nil_append]

def lines (library : LogLibrary) (journal : Journal) (time : String) (event : Event)
    (thread : ThreadId) : List Delivery :=
  match journal.gate with
  | none => []
  | some gate =>
      if library.passes gate event.level.severity then
        journal.deliveries library time (.ofEvent event) thread
      else []

theorem tell_singleton (library : LogLibrary) (journal : Journal) (time : String) (event : Event)
    (thread : ThreadId) :
    journal.tell library time [event] thread =
      { journal with
        delivered := journal.delivered ++ journal.lines library time event thread } := by
  obtain ⟨gate, level, handlers, threads, opened, delivered⟩ := journal
  cases gate with
  | none => simp [tell, tellOne, lines]
  | some gate =>
      cases hpasses : library.passes gate event.level.severity with
      | false => simp [tell, tellOne, lines, hpasses]
      | true => simp [tell, tellOne, lines, hpasses, write]

/-- A step that configures nothing leaves everything as it is but the displays. -/
theorem Reflects.append (hreflects : journal.Reflects history) {next : Journal} {last : Step}
    (hlast : last.settings? = none) (hgate : next.gate = journal.gate)
    (hlevel : next.level = journal.level) (hhandlers : next.handlers = journal.handlers)
    (hdisplays : ∀ thread, (next.threads thread).displays =
      (journal.threads thread).displays + last.change thread)
    (hrun : ∀ thread, next.runId thread = journal.runId thread) :
    next.Reflects (history ++ [last]) := by
  have hsettings : lastSettings (history ++ [last]) = lastSettings history := by
    rw [lastSettings_append_singleton, hlast, Option.none_or]
  constructor
  · rw [hgate, hsettings, hreflects.gate]
  · rw [hlevel, hsettings]
    exact hreflects.level
  · rw [hhandlers, hsettings]
    exact hreflects.handlers
  · intro thread
    rw [hdisplays, balance_append_singleton, hreflects.displays]
  · intro thread
    rw [hrun, hreflects.runId]

theorem displays_mute (journal : Journal) (own thread : ThreadId) :
    ((journal.mute own).threads thread).displays =
      (journal.threads thread).displays + if own = thread then 1 else 0 := by
  by_cases hown : own = thread
  · simp [mute, onThread, hown]
  · simp [mute, onThread, hown, Ne.symm hown]

theorem displays_unmute (journal : Journal) (own thread : ThreadId) :
    ((journal.unmute own).threads thread).displays =
      (journal.threads thread).displays + if own = thread then -1 else 0 := by
  by_cases hown : own = thread
  · simp [unmute, onThread, hown, Int.sub_eq_add_neg]
  · simp [unmute, onThread, hown, Ne.symm hown]

theorem runId_mute (journal : Journal) (own thread : ThreadId) :
    (journal.mute own).runId thread = journal.runId thread := by
  by_cases hown : thread = own <;> simp [mute, onThread, runId, hown]

theorem runId_unmute (journal : Journal) (own thread : ThreadId) :
    (journal.unmute own).runId thread = journal.runId thread := by
  by_cases hown : thread = own <;> simp [unmute, onThread, runId, hown]

/-- Each step keeps the journal in accord with the history. -/
theorem Reflects.step (hreflects : journal.Reflects history) (last : Step) :
    (journal.step library last).Reflects (history ++ [last]) := by
  cases last with
  | configure settings =>
      have hlast : lastSettings (history ++ [.configure settings]) = some settings := by
        simp [lastSettings_append_singleton, Step.settings?]
      rw [Journal.step, configure_eq]
      constructor
      · rw [hlast, Option.map_some]
      · rw [hlast]
        rintro _ ⟨⟩
        rfl
      · rw [hlast]
        rintro _ ⟨⟩
        rfl
      · intro thread
        simp [balance_append_singleton, Step.change, hreflects.displays]
      · exact hreflects.runId
  | enter own =>
      exact hreflects.append rfl rfl rfl rfl (displays_mute journal own) (runId_mute journal own)
  | leave own ending =>
      exact hreflects.append rfl rfl rfl rfl (displays_unmute journal own)
        (runId_unmute journal own)
  | tell own time event =>
      rw [Journal.step, tell_singleton]
      exact hreflects.append rfl rfl rfl rfl (fun thread => by simp [Step.change]) fun _ => rfl

/-- The journal of a history is in accord with it: handlers and gate are those of the last
configuration, and counts of displays are balances. -/
theorem reflects_run (history : List Step) : (run library history).Reflects history := by
  induction history using List.reverseRecOn with
  | nil => exact reflects_nil
  | append_singleton history last ih =>
      rw [run_append_singleton]
      exact ih.step last

end

/-! ## Events that were told -/

/-- An event that was told, and what was done before. -/
structure Telling where
  before : List Step
  thread : ThreadId
  time : String
  event : Event

namespace Telling

/-- Whether an output gets the event under the last settings. -/
def Reaches (telling : Telling) (settings : LoggingSettings) (output : LogOutput) : Prop :=
  settings.level.severity ≤ telling.event.level.severity ∧
    (output.level.getD settings.level).severity ≤ telling.event.level.severity ∧
    ¬ (output.isStream ∧ Open telling.thread telling.before)

instance (telling : Telling) (settings : LoggingSettings) (output : LogOutput) :
    Decidable (telling.Reaches settings output) :=
  inferInstanceAs (Decidable (_ ∧ _ ∧ ¬ (_ ∧ _)))

def fields (library : LogLibrary) (telling : Telling) : Entries :=
  library.stamped (.ofEvent telling.event) telling.time none

/-- One line for each output of the last settings that the event reaches. -/
def outputLines (library : LogLibrary) (telling : Telling) : List Delivery :=
  match lastSettings telling.before with
  | none => []
  | some settings =>
      (settings.outputs.filter fun output => telling.Reaches settings output).map fun output =>
        ⟨output.destination, output.format.line library (telling.fields library)⟩

/-- What is written where the last settings have no outputs. -/
def lastResortLines (library : LogLibrary) (telling : Telling) : List Delivery :=
  match lastSettings telling.before with
  | none => []
  | some settings =>
      if settings.outputs = [] ∧ settings.level.severity ≤ telling.event.level.severity ∧
          Level.warning.severity ≤ telling.event.level.severity then
        [⟨"stderr", (LogEntry.ofEvent telling.event).bareLine (telling.fields library)⟩]
      else []

def lines (library : LogLibrary) (telling : Telling) : List Delivery :=
  telling.outputLines library ++ telling.lastResortLines library

end Telling

def Step.telling? (before : List Step) : Step → Option Telling
  | .tell thread time event => some ⟨before, thread, time, event⟩
  | _ => none

/-- The events that were told, in order, where something was done before. -/
def tellings (before : List Step) : List Step → List Telling
  | [] => []
  | next :: rest => (next.telling? before).toList ++ tellings (before ++ [next]) rest

theorem accepts_ofOutput {level : Level} {output : LogOutput} {severity : Int} {isMuted : Bool} :
    (Handler.ofOutput level output).accepts severity isMuted = true ↔
      (output.level.getD level).severity ≤ severity ∧ ¬ (output.isStream ∧ isMuted) := by
  cases hstream : output.isStream <;> cases isMuted <;>
    simp [Handler.accepts, Handler.ofOutput, LogOutput.threshold, hstream]

theorem lastResort_ofEvent (event : Event) (fields : Entries) :
    lastResort (.ofEvent event) fields =
      if Level.warning.severity ≤ event.level.severity then
        [⟨"stderr", (LogEntry.ofEvent event).bareLine fields⟩]
      else [] :=
  rfl

theorem Reflects.reaches_iff
    {journal : Journal} {history : List Step} (hreflects : journal.Reflects history)
    (hnested : Nested history) (thread : ThreadId) (time : String) (event : Event)
    (settings : LoggingSettings) (output : LogOutput) :
    Telling.Reaches ⟨history, thread, time, event⟩ settings output ↔
      settings.level.severity ≤ event.level.severity ∧
        (Handler.ofOutput settings.level output).accepts event.level.severity
          (journal.isMuted thread) = true := by
  have hmuted : journal.isMuted thread ↔ Open thread history := by
    rw [open_iff_balance hnested, isMuted, hreflects.displays, decide_eq_true_eq]
  rw [accepts_ofOutput, hmuted]
  rfl

/-- Where the level of the log lets an event through, the handlers decide as the outputs
from which they were made. -/
theorem Reflects.filter_handlers
    {journal : Journal} {history : List Step} (hreflects : journal.Reflects history)
    (hnested : Nested history) (thread : ThreadId) (time : String) {event : Event}
    {settings : LoggingSettings} (hlevel : settings.level.severity ≤ event.level.severity) :
    (settings.outputs.map (Handler.ofOutput settings.level)).filter
        (·.accepts event.level.severity (journal.isMuted thread)) =
      (settings.outputs.filter fun output =>
        Telling.Reaches ⟨history, thread, time, event⟩ settings output).map
          (Handler.ofOutput settings.level) := by
  rw [List.filter_map]
  congr 2
  funext output
  rw [Function.comp_apply, Bool.eq_iff_iff, decide_eq_true_eq,
    hreflects.reaches_iff hnested thread time event]
  exact (and_iff_right hlevel).symm

theorem Reflects.lines_eq (hfilters : library.FiltersLevels) {journal : Journal}
    {history : List Step} (hreflects : journal.Reflects history) (hnested : Nested history)
    (thread : ThreadId) (time : String) (event : Event) :
    journal.lines library time event thread =
      Telling.lines library ⟨history, thread, time, event⟩ := by
  unfold Telling.lines Telling.outputLines Telling.lastResortLines
  cases hsettings : lastSettings history with
  | none =>
      have hgate : journal.gate = none := by rw [hreflects.gate, hsettings, Option.map_none]
      simp [Journal.lines, hgate]
  | some settings =>
      have hgate : journal.gate = some settings.level.severity := by
        rw [hreflects.gate, hsettings, Option.map_some]
      by_cases hlevel : settings.level.severity ≤ event.level.severity
      · have hpasses : library.passes settings.level.severity event.level.severity = true :=
          (hfilters settings.level event.level).mpr hlevel
        have hseverity : ¬ (LogEntry.ofEvent event).severity < settings.level.severity :=
          Int.not_lt.mpr hlevel
        have hfields : library.stamped (.ofEvent event) time none =
            Telling.fields library ⟨history, thread, time, event⟩ := rfl
        simp only [Journal.lines, hgate, if_pos hpasses, deliveries, hreflects.runId,
          hreflects.level settings hsettings, hreflects.handlers settings hsettings,
          if_neg hseverity, List.isEmpty_iff, List.map_eq_nil_iff, hfields]
        by_cases houtputs : settings.outputs = []
        · rw [if_pos houtputs, lastResort_ofEvent, houtputs]
          simp [hlevel]
        · have hhandlers := hreflects.filter_handlers hnested thread time hlevel
          rw [if_neg houtputs, if_neg fun hresort => houtputs hresort.1, List.append_nil]
          exact (congrArg (List.map fun handler : Handler =>
            handler.delivery library (Telling.fields library ⟨history, thread, time, event⟩))
              hhandlers).trans List.map_map
      · have hpasses : ¬ library.passes settings.level.severity event.level.severity = true :=
          fun hpasses => hlevel ((hfilters settings.level event.level).mp hpasses)
        have hnone (output : LogOutput) :
            ¬ Telling.Reaches ⟨history, thread, time, event⟩ settings output :=
          fun hreaches => hlevel hreaches.1
        simp [Journal.lines, hgate, hpasses, hnone, hlevel]

/-- One step delivers the lines of the event that it tells, if it tells one. -/
theorem delivered_step (hfilters : library.FiltersLevels) {before : List Step}
    (hnested : Nested before) (next : Step) :
    (run library (before ++ [next])).delivered =
      (run library before).delivered ++
        (next.telling? before).toList.flatMap (Telling.lines library) := by
  rw [run_append_singleton]
  cases next with
  | configure settings => simp [step, configure_eq, Step.telling?]
  | enter thread => simp [step, mute, onThread, Step.telling?]
  | leave thread ending => simp [step, unmute, onThread, Step.telling?]
  | tell thread time event =>
      have hreflects : (run library before).Reflects before := reflects_run before
      have hlines := hreflects.lines_eq hfilters hnested thread time event
      simp [step, tell_singleton, hlines, Step.telling?]

/-- A history delivers the lines of its events in their order. -/
theorem delivered_run (hfilters : library.FiltersLevels) {before history : List Step}
    (hnested : Nested (before ++ history)) :
    (run library (before ++ history)).delivered =
      (run library before).delivered ++
        (tellings before history).flatMap (Telling.lines library) := by
  induction history generalizing before with
  | nil => simp [tellings]
  | cons next rest ih =>
      have hsplit : before ++ next :: rest = (before ++ [next]) ++ rest := by simp
      have hbefore : Nested before := hnested.of_prefix (List.prefix_append _ _)
      rw [hsplit] at hnested ⊢
      rw [ih hnested, delivered_step hfilters hbefore, tellings, List.flatMap_append,
        List.append_assoc]

/-- A program gives the lines of its events whether it ends or fails: what it wrote inside a
block that failed, and after it, is decided like everything else. -/
theorem delivered_performAll (hfilters : library.FiltersLevels) {before : List Step}
    (hnested : Nested before) (thread : ThreadId) (actions : List Action) :
    (performAll library thread actions (run library before)).2.delivered =
      (run library before).delivered ++
        (tellings before (stepsOf thread actions).1).flatMap (Telling.lines library) := by
  have hwhole : Nested (before ++ (stepsOf thread actions).1) :=
    hnested.append (closed_stepsOf thread actions).nested
  have hperformed : (performAll library thread actions (run library before)).2 =
      run library (before ++ (stepsOf thread actions).1) := by
    rw [performAll_eq, run, run, List.foldl_append]
  rw [hperformed, delivered_run hfilters hwhole]

/-- Each event that is told once logging is configured goes, in the order of the events, to
the outputs of the last settings that it reaches, and nowhere else but to the last resort of
settings without outputs.  So do the events of a program that may fail inside its blocks. -/
theorem delivered_since_configured (hfilters : library.FiltersLevels) {early late : List Step}
    {settings : LoggingSettings} (hnested : Nested (early ++ .configure settings :: late)) :
    (run library (early ++ .configure settings :: late)).delivered =
        (run library early).delivered ++
          (tellings (early ++ [.configure settings]) late).flatMap (Telling.lines library) ∧
      ∀ (thread : ThreadId) (actions : List Action),
        (performAll library thread actions
            (run library (early ++ [.configure settings]))).2.delivered =
          (run library early).delivered ++
            (tellings (early ++ [.configure settings]) (stepsOf thread actions).1).flatMap
              (Telling.lines library) := by
  have hsplit : early ++ .configure settings :: late =
      (early ++ [.configure settings]) ++ late := by simp
  rw [hsplit] at hnested ⊢
  have hbefore : Nested (early ++ [.configure settings]) :=
    hnested.of_prefix (List.prefix_append _ _)
  have hearly : Nested early := hbefore.of_prefix (List.prefix_append _ _)
  have hconfigured : (run library (early ++ [.configure settings])).delivered =
      (run library early).delivered := by
    rw [delivered_step hfilters hearly]
    simp [Step.telling?]
  constructor
  · rw [delivered_run hfilters hnested, hconfigured]
  · intro thread actions
    rw [delivered_performAll hfilters hbefore, hconfigured]

def sampleSettings : LoggingSettings where
  outputs :=
    [{}, { format := .json, destination := "/log/all" },
      { destination := "/log/errors", level := some .error }]

def sampleEvent : Event := { level := .warning, name := "file_skipped" }

/-- Inside a block that fails, after it, and on another thread. -/
def sampleSteps : List Step :=
  [.enter 0, .tell 0 "T1" sampleEvent, .tell 1 "T2" sampleEvent, .leave 0 .byException,
    .tell 0 "T3" sampleEvent]

/-- The same on one thread, as a program that fails in its block and recovers. -/
def sampleActions : List Action :=
  [.recover [.quietly [.tell "T1" sampleEvent, .fail]], .tell "T3" sampleEvent]

def sampleLine (format : LogFormat) (time : String) : String :=
  format.line .usual (LogLibrary.usual.stamped (.ofEvent sampleEvent) time none)

theorem closed_configure (settings : LoggingSettings) : Closed [.configure settings] :=
  closed_singleton fun _ => rfl

theorem closed_tell (thread : ThreadId) (time : String) (event : Event) :
    Closed [.tell thread time event] :=
  closed_singleton fun _ => rfl

theorem delivered_since_configured_twice :
    Nested ([.configure {}] ++ .configure sampleSettings :: sampleSteps) ∧
    (run .usual ([.configure {}] ++ .configure sampleSettings :: sampleSteps)).delivered =
      [⟨"/log/all", sampleLine .json "T1"⟩, ⟨"stderr", sampleLine .console "T2"⟩,
        ⟨"/log/all", sampleLine .json "T2"⟩, ⟨"stderr", sampleLine .console "T3"⟩,
        ⟨"/log/all", sampleLine .json "T3"⟩] ∧
    (performAll .usual 0 sampleActions
        (run .usual ([.configure {}] ++ [.configure sampleSettings]))).2.delivered =
      [⟨"/log/all", sampleLine .json "T1"⟩, ⟨"stderr", sampleLine .console "T3"⟩,
        ⟨"/log/all", sampleLine .json "T3"⟩] := by
  have hblock :=
    ((closed_tell 0 "T1" sampleEvent).append (closed_tell 1 "T2" sampleEvent)).block 0
      .byException
  have hnested : Nested ([.configure {}] ++ .configure sampleSettings :: sampleSteps) :=
    ((closed_configure {}).append
      ((closed_configure sampleSettings).append
        (hblock.append (closed_tell 0 "T3" sampleEvent)))).nested
  obtain ⟨hrun, hperformed⟩ :=
    delivered_since_configured LogLibrary.usual_filtersLevels hnested
  refine ⟨hnested, ?_, ?_⟩
  · rw [hrun]
    rfl
  · rw [hperformed 0 sampleActions]
    rfl

/-- The last settings have no outputs, and still the event is written to the output of the
settings before them. -/
theorem delivered_not_only_to_outputs :
    ¬ ∀ (early late : List Step) (settings : LoggingSettings),
        Nested (early ++ .configure settings :: late) →
        (run .usual (early ++ .configure settings :: late)).delivered =
          (run .usual early).delivered ++
            (tellings (early ++ [.configure settings]) late).flatMap
              (Telling.outputLines .usual) := by
  intro honly
  have hnested : Nested ([.configure {}] ++ .configure { outputs := [] } ::
      [.tell 0 "T1" sampleEvent]) :=
    ((closed_configure {}).append
      ((closed_configure { outputs := [] }).append (closed_tell 0 "T1" sampleEvent))).nested
  have hwritten := congrArg List.length (honly _ _ _ hnested)
  have hone : (run .usual ([.configure {}] ++ .configure { outputs := [] } ::
      [.tell 0 "T1" sampleEvent])).delivered.length = 1 := by rfl
  rw [hone] at hwritten
  contradiction

end Journal
end SourceOutline
