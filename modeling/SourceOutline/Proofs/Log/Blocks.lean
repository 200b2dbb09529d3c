import SourceOutline.Log.Journal
import Mathlib.Data.List.Infix

/-!
# Blocks that keep the terminal quiet

Blocks are entered and left on several threads, and between that logging is configured and
events are told.  A history is nested if no thread leaves more blocks than it has entered.
Then a thread has a block open if and only if its balance of entering and leaving is above
zero; the block is the one with which the balance rose above zero for the last time.

What a program does on one thread is nested, and it leaves every block that it enters, also
when it fails inside of it.
-/

namespace SourceOutline
namespace Journal

inductive Ending where
  | atEnd
  | byException
  deriving DecidableEq, Repr

/-- What is done to a journal, and on which thread. -/
inductive Step where
  | configure (settings : LoggingSettings)
  | enter (thread : ThreadId)
  | leave (thread : ThreadId) (ending : Ending)
  | tell (thread : ThreadId) (time : String) (event : Event)

def step (library : LogLibrary) (journal : Journal) : Step → Journal
  | .configure settings => journal.configure settings
  | .enter thread => journal.mute thread
  | .leave thread _ => journal.unmute thread
  | .tell thread time event => journal.tell library time [event] thread

def run (library : LogLibrary) (history : List Step) : Journal :=
  history.foldl (step library) {}

theorem run_append_singleton (library : LogLibrary) (history : List Step) (last : Step) :
    run library (history ++ [last]) = (run library history).step library last := by
  simp [run]

/-! ## Blocks that are open -/

/-- By how much a step changes the number of blocks in which a thread is. -/
def Step.change (thread : ThreadId) : Step → Int
  | .enter own => if own = thread then 1 else 0
  | .leave own _ => if own = thread then -1 else 0
  | _ => 0

/-- How many more blocks a thread entered than it left. -/
def balance (thread : ThreadId) : List Step → Int
  | [] => 0
  | first :: rest => first.change thread + balance thread rest

theorem balance_append (thread : ThreadId) (first second : List Step) :
    balance thread (first ++ second) = balance thread first + balance thread second := by
  induction first with
  | nil => simp [balance]
  | cons step first ih =>
      rw [List.cons_append, balance, balance, ih]
      omega

theorem balance_append_singleton (thread : ThreadId) (history : List Step) (last : Step) :
    balance thread (history ++ [last]) = balance thread history + last.change thread := by
  rw [balance_append, balance, balance, Int.add_zero]

theorem balance_enter (thread : ThreadId) : balance thread [.enter thread] = 1 := by
  simp [balance, Step.change]

/-- No thread leaves a block that it has not entered. -/
def Nested (history : List Step) : Prop :=
  ∀ thread front, front <+: history → 0 ≤ balance thread front

/-- A block was entered that has not been left since: what came after it left only blocks
that were entered after it. -/
def Open (thread : ThreadId) (history : List Step) : Prop :=
  ∃ front back, history = front ++ .enter thread :: back ∧
    ∀ inner, inner <+: back → 0 ≤ balance thread inner

theorem Nested.of_prefix {history front : List Step} (hnested : Nested history)
    (hfront : front <+: history) : Nested front := by
  intro thread inner hinner
  exact hnested thread inner (hinner.trans hfront)

theorem nested_nil : Nested [] := by
  intro thread front hfront
  rw [List.prefix_nil.mp hfront]
  exact Int.le_refl 0

theorem Nested.append {first second : List Step} (hfirst : Nested first)
    (hsecond : Nested second) : Nested (first ++ second) := by
  intro thread front hfront
  rcases List.prefix_or_prefix_of_prefix hfront (List.prefix_append first second) with
    hfront | ⟨inner, rfl⟩
  · exact hfirst thread front hfront
  · have hwhole := hfirst thread first List.prefix_rfl
    have hinner := hsecond thread inner ((List.prefix_append_right_inj first).mp hfront)
    rw [balance_append]
    omega

/-- One more step keeps a history nested if no balance falls below zero. -/
theorem Nested.concat {history : List Step} {last : Step} (hhistory : Nested history)
    (hlast : ∀ thread, 0 ≤ balance thread (history ++ [last])) : Nested (history ++ [last]) := by
  intro thread front hfront
  rcases List.prefix_concat_iff.mp hfront with rfl | hfront
  · exact hlast thread
  · exact hhistory thread front hfront

/-- An open block is counted. -/
theorem balance_of_open {thread : ThreadId} {history : List Step} (hnested : Nested history)
    (hopen : Open thread history) : 0 < balance thread history := by
  obtain ⟨front, back, rfl, hback⟩ := hopen
  have hfront := hnested thread front (List.prefix_append _ _)
  have hinner := hback back List.prefix_rfl
  rw [← List.singleton_append, balance_append, balance_append, balance_enter]
  omega

/-- The block that is open is the one with which the balance rose above zero for the last
time. -/
theorem exists_open_of_balance {thread : ThreadId} {history : List Step}
    (hbalance : 0 < balance thread history) :
    ∃ front back, history = front ++ .enter thread :: back ∧ balance thread front ≤ 0 ∧
      ∀ inner, inner <+: back → 0 ≤ balance thread inner := by
  induction history using List.reverseRecOn with
  | nil => simp [balance] at hbalance
  | append_singleton history last ih =>
      by_cases hbefore : 0 < balance thread history
      · -- The block was open before the last step, and the last step has not left it.
        obtain ⟨front, back, rfl, hfront, hback⟩ := ih hbefore
        refine ⟨front, back ++ [last], by simp, hfront, ?_⟩
        intro inner hinner
        rcases List.prefix_concat_iff.mp hinner with rfl | hinner
        · have hsplit : front ++ .enter thread :: back ++ [last] =
              front ++ ([.enter thread] ++ (back ++ [last])) := by simp
          rw [hsplit, balance_append, balance_append, balance_enter] at hbalance
          omega
        · exact hback inner hinner
      · rw [balance_append_singleton] at hbalance
        cases last with
        | enter own =>
            rw [Step.change] at hbalance
            by_cases hown : own = thread
            · subst hown
              refine ⟨history, [], rfl, by omega, ?_⟩
              intro inner hinner
              rw [List.prefix_nil.mp hinner]
              simp [balance]
            · simp [hown] at hbalance
              omega
        | leave own ending =>
            rw [Step.change] at hbalance
            split at hbalance <;> omega
        | configure settings => simp [Step.change, hbefore] at hbalance
        | tell own time event => simp [Step.change, hbefore] at hbalance

theorem open_iff_balance {thread : ThreadId} {history : List Step} (hnested : Nested history) :
    Open thread history ↔ 0 < balance thread history := by
  constructor
  · exact balance_of_open hnested
  · intro hbalance
    obtain ⟨front, back, hhistory, _, hback⟩ := exists_open_of_balance hbalance
    exact ⟨front, back, hhistory, hback⟩

/-- Whether a block is open, by all places at which it can have been entered. -/
def isOpen (thread : ThreadId) (history : List Step) : Bool :=
  history.tails.any fun
    | .enter own :: back =>
        own = thread && back.inits.all fun inner => decide (0 ≤ balance thread inner)
    | _ => false

theorem isOpen_iff {thread : ThreadId} {history : List Step} :
    isOpen thread history = true ↔ Open thread history := by
  unfold isOpen Open
  rw [List.any_eq_true]
  constructor
  · rintro ⟨rest, hrest, hopen⟩
    obtain ⟨front, rfl⟩ := (List.mem_tails rest history).mp hrest
    split at hopen
    next own back =>
      rw [Bool.and_eq_true, decide_eq_true_eq, List.all_eq_true] at hopen
      obtain ⟨rfl, hback⟩ := hopen
      refine ⟨front, back, rfl, ?_⟩
      intro inner hinner
      exact of_decide_eq_true (hback inner ((List.mem_inits inner back).mpr hinner))
    next => contradiction
  · rintro ⟨front, back, rfl, hback⟩
    refine ⟨.enter thread :: back, (List.mem_tails _ _).mpr (List.suffix_append _ _), ?_⟩
    rw [Bool.and_eq_true, decide_eq_true_eq, List.all_eq_true]
    refine ⟨rfl, ?_⟩
    intro inner hinner
    exact decide_eq_true (hback inner ((List.mem_inits inner back).mp hinner))

instance (thread : ThreadId) (history : List Step) : Decidable (Open thread history) :=
  decidable_of_iff _ isOpen_iff

/-! ## Blocks that fail -/

/-- What a program does on one thread.  It can fail, inside blocks that keep the terminal
quiet and inside others that recover from failures. -/
inductive Action where
  | configure (settings : LoggingSettings)
  | tell (time : String) (event : Event)
  | fail
  | quietly (body : List Action)
  | recover (body : List Action)

mutual
def Action.perform (library : LogLibrary) (thread : ThreadId) :
    Action → Journal → Except Unit Unit × Journal
  | .configure settings, journal => (.ok (), journal.configure settings)
  | .tell time event, journal => (.ok (), journal.tell library time [event] thread)
  | .fail, journal => (.error (), journal)
  | .quietly body, journal =>
      journal.whileMuted (fun journal => performAll library thread body journal) thread
  | .recover body, journal => (.ok (), (performAll library thread body journal).2)

def performAll (library : LogLibrary) (thread : ThreadId) :
    List Action → Journal → Except Unit Unit × Journal
  | [], journal => (.ok (), journal)
  | action :: rest, journal =>
      match action.perform library thread journal with
      | (.ok _, journal) => performAll library thread rest journal
      | (.error failure, journal) => (.error failure, journal)
end

def Ending.result : Ending → Except Unit Unit
  | .atEnd => .ok ()
  | .byException => .error ()

mutual
def Action.steps (thread : ThreadId) : Action → List Step × Ending
  | .configure settings => ([.configure settings], .atEnd)
  | .tell time event => ([.tell thread time event], .atEnd)
  | .fail => ([], .byException)
  | .quietly body =>
      let (steps, ending) := stepsOf thread body
      ([.enter thread] ++ steps ++ [.leave thread ending], ending)
  | .recover body => ((stepsOf thread body).1, .atEnd)

def stepsOf (thread : ThreadId) : List Action → List Step × Ending
  | [] => ([], .atEnd)
  | action :: rest =>
      match action.steps thread with
      | (steps, .atEnd) => (steps ++ (stepsOf thread rest).1, (stepsOf thread rest).2)
      | (steps, .byException) => (steps, .byException)
end

mutual
theorem Action.perform_eq (library : LogLibrary) (thread : ThreadId) (action : Action)
    (journal : Journal) :
    action.perform library thread journal =
      ((action.steps thread).2.result,
        (action.steps thread).1.foldl (step library) journal) := by
  match action with
  | .configure settings => rfl
  | .tell time event => rfl
  | .fail => rfl
  | .quietly body =>
      simp [Action.perform, Action.steps, whileMuted, performAll_eq library thread body, step]
  | .recover body =>
      simp [Action.perform, Action.steps, performAll_eq library thread body, Ending.result]

/-- What a program does to a journal are its steps, one after the other. -/
theorem performAll_eq (library : LogLibrary) (thread : ThreadId) (actions : List Action)
    (journal : Journal) :
    performAll library thread actions journal =
      ((stepsOf thread actions).2.result,
        (stepsOf thread actions).1.foldl (step library) journal) := by
  match actions with
  | [] => rfl
  | action :: rest =>
      rw [performAll, stepsOf, Action.perform_eq library thread action]
      rcases hsteps : action.steps thread with ⟨steps, _ | _⟩
      · simp [Ending.result, performAll_eq library thread rest]
      · simp [Ending.result]
end

/-- Steps that leave exactly the blocks that they enter. -/
structure Closed (steps : List Step) : Prop where
  nested : Nested steps
  balance : ∀ thread, balance thread steps = 0

theorem closed_nil : Closed [] :=
  ⟨nested_nil, fun _ => rfl⟩

theorem closed_singleton {only : Step} (honly : ∀ thread, only.change thread = 0) :
    Closed [only] := by
  have hbalance (thread : ThreadId) : Journal.balance thread [only] = 0 := by
    simp [Journal.balance, honly]
  exact ⟨nested_nil.concat fun thread => Int.le_of_eq (hbalance thread).symm, hbalance⟩

theorem Closed.append {first second : List Step} (hfirst : Closed first)
    (hsecond : Closed second) : Closed (first ++ second) := by
  refine ⟨hfirst.nested.append hsecond.nested, ?_⟩
  intro thread
  rw [balance_append, hfirst.balance, hsecond.balance, Int.add_zero]

/-- A block around closed steps is closed, however it ends. -/
theorem Closed.block {body : List Step} (hbody : Closed body) (thread : ThreadId)
    (ending : Ending) : Closed ([.enter thread] ++ body ++ [.leave thread ending]) := by
  have hopen : Nested [.enter thread] := by
    refine nested_nil.concat ?_
    intro other
    by_cases hother : thread = other <;> simp [Journal.balance, Step.change, hother]
  have hwhole (other : ThreadId) :
      Journal.balance other ([.enter thread] ++ body ++ [.leave thread ending]) = 0 := by
    rw [balance_append, balance_append, hbody.balance]
    by_cases hother : thread = other <;> simp [Journal.balance, Step.change, hother]
  exact ⟨(hopen.append hbody.nested).concat fun other => Int.le_of_eq (hwhole other).symm,
    hwhole⟩

mutual
theorem Action.closed_steps (thread : ThreadId) (action : Action) :
    Closed (action.steps thread).1 := by
  match action with
  | .configure settings => exact closed_singleton fun _ => rfl
  | .tell time event => exact closed_singleton fun _ => rfl
  | .fail => exact closed_nil
  | .quietly body => exact (closed_stepsOf thread body).block thread (stepsOf thread body).2
  | .recover body => exact closed_stepsOf thread body

/-- However a program ends, it has left the blocks that it entered. -/
theorem closed_stepsOf (thread : ThreadId) (actions : List Action) :
    Closed (stepsOf thread actions).1 := by
  match actions with
  | [] => exact closed_nil
  | action :: rest =>
      have haction := Action.closed_steps thread action
      rw [stepsOf]
      rcases hsteps : action.steps thread with ⟨steps, _ | _⟩
      · rw [hsteps] at haction
        exact haction.append (closed_stepsOf thread rest)
      · rw [hsteps] at haction
        exact haction
end

end Journal
end SourceOutline
