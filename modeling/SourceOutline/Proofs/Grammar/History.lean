import SourceOutline.Proofs.Data.Put
import SourceOutline.Proofs.Extractor.Run

/-!
# The history of a cache of grammars

Between two loads any library may come to fail and any may be mended.  What a cache
holds is nevertheless a matter of the loads alone: an object for each grammar that was
ever loaded, made by the first load that could make it.  A load that fails is not
remembered, so it neither stands in the way of a later one nor takes anything away.

The invariant compares a cache with the loads behind it.  One load keeps it, and so does
every history.
-/

namespace SourceOutline

/-- A grammar is loaded, or from now on other libraries fail. -/
inductive CacheStep where
  | load (grammar : String)
  | libraries (faults : LibraryFaults)

/-- A load, with the cache and the failing libraries that it finds. -/
structure LoadAttempt where
  cache : GrammarCache
  faults : LibraryFaults
  grammar : String

namespace LoadAttempt

def result (attempt : LoadAttempt) : Except Stop LoadedGrammar :=
  (attempt.cache.load attempt.faults attempt.grammar).1

def cacheAfter (attempt : LoadAttempt) : GrammarCache :=
  (attempt.cache.load attempt.faults attempt.grammar).2.1

def events (attempt : LoadAttempt) : List Event :=
  (attempt.cache.load attempt.faults attempt.grammar).2.2

def gives (grammar : String) (attempt : LoadAttempt) : Bool :=
  attempt.grammar == grammar && attempt.result.isOk

theorem gives_iff {grammar : String} {attempt : LoadAttempt} :
    attempt.gives grammar = true ↔
      attempt.grammar = grammar ∧ ∃ loaded, attempt.result = .ok loaded := by
  unfold gives
  cases attempt.result with
  | ok loaded => simp [Except.isOk, Except.toBool]
  | error fault => simp [Except.isOk, Except.toBool]

/-- A load that fails says why, tells nothing and leaves the cache as it was. -/
theorem of_result_error {attempt : LoadAttempt} {stop : Stop}
    (hstop : attempt.result = .error stop) :
    Grammar.refusal? attempt.faults attempt.grammar = some stop ∧
      attempt.cacheAfter = attempt.cache ∧ attempt.events = [] := by
  unfold result at hstop
  unfold cacheAfter events
  rcases attempt.cache.load_cases attempt.faults attempt.grammar with
    ⟨loaded, _, hload⟩ | ⟨other, _, hrefusal, hload⟩ | ⟨pack, _, _, hload⟩
  · rw [hload] at hstop
    contradiction
  · rw [hload] at hstop ⊢
    rw [← Except.error.inj hstop]
    exact ⟨hrefusal, rfl, rfl⟩
  · rw [hload] at hstop
    contradiction

end LoadAttempt

/-- The grammar that an event tells to be loaded. -/
def Event.loadedGrammar? (event : Event) : Option String :=
  if event.name = "grammar_loaded" then
    match event.fields.lookup "grammar" with
    | some (.text grammar) => some grammar
    | _ => none
  else none

def loadsTold (attempts : List LoadAttempt) : List String :=
  (attempts.flatMap LoadAttempt.events).filterMap Event.loadedGrammar?

theorem loadsTold_append (front back : List LoadAttempt) :
    loadsTold (front ++ back) = loadsTold front ++ loadsTold back := by
  simp [loadsTold]

namespace GrammarCache

def attempts (cache : GrammarCache) (faults : LibraryFaults) : List CacheStep → List LoadAttempt
  | [] => []
  | .libraries changed :: rest => cache.attempts changed rest
  | .load grammar :: rest =>
      let attempt : LoadAttempt := ⟨cache, faults, grammar⟩
      attempt :: attempt.cacheAfter.attempts faults rest

/-- A cache holds what the loads behind it have given, each grammar as an object of its
own, and each of these grammars was told once. -/
structure Remembers (cache : GrammarCache) (earlier : List LoadAttempt) : Prop where
  holds_iff : ∀ grammar loaded, cache.loaded.lookup grammar = some loaded ↔
    ∃ attempt ∈ earlier, attempt.grammar = grammar ∧ attempt.result = .ok loaded
  known : ∀ grammar loaded, cache.loaded.lookup grammar = some loaded →
    (Pack.named? grammar).isSome
  serial_lt : ∀ grammar loaded, cache.loaded.lookup grammar = some loaded →
    loaded.serial < cache.nextSerial
  apart : ∀ grammar other loaded object, cache.loaded.lookup grammar = some loaded →
    cache.loaded.lookup other = some object → loaded.serial = object.serial → grammar = other
  told : ∀ grammar, (loadsTold earlier).count grammar =
    if (cache.loaded.lookup grammar).isSome then 1 else 0

theorem remembers_nothing : Remembers {} [] := by
  constructor <;> simp [loadsTold]

namespace Remembers

variable {cache : GrammarCache} {earlier : List LoadAttempt}

/-- What a load gives was given before or by this very load. -/
theorem exists_given_concat {attempt : LoadAttempt} {grammar : String} {loaded : LoadedGrammar} :
    (∃ first ∈ earlier ++ [attempt], first.grammar = grammar ∧ first.result = .ok loaded) ↔
      (∃ first ∈ earlier, first.grammar = grammar ∧ first.result = .ok loaded) ∨
        attempt.grammar = grammar ∧ attempt.result = .ok loaded := by
  simp only [List.mem_append, List.mem_singleton, or_and_right, exists_or, exists_eq_left]

/-- A load that changes nothing and gives what is there already, or gives nothing, can be
added to the loads behind a cache. -/
theorem afterUnchanged
    (hcache : cache.Remembers earlier) {attempt : LoadAttempt}
    (hevents : attempt.events = [])
    (hheld : ∀ loaded, attempt.result = .ok loaded →
      cache.loaded.lookup attempt.grammar = some loaded) :
    cache.Remembers (earlier ++ [attempt]) := by
  refine ⟨?_, hcache.known, hcache.serial_lt, hcache.apart, ?_⟩
  · intro grammar loaded
    rw [exists_given_concat, ← hcache.holds_iff, iff_self_or]
    rintro ⟨rfl, hresult⟩
    exact hheld loaded hresult
  · intro grammar
    have hnone : loadsTold [attempt] = [] := by simp [loadsTold, hevents]
    rw [loadsTold_append, hnone, List.append_nil]
    exact hcache.told grammar

/-- The first load of a grammar adds an object with the next serial number. -/
theorem afterNew
    (hcache : cache.Remembers earlier) (attempt : LoadAttempt) {pack : Pack}
    (hlookup : cache.loaded.lookup attempt.grammar = none)
    (hknown : Pack.named? attempt.grammar = some pack)
    (hevents : attempt.events = [grammarLoaded attempt.grammar pack])
    (hresult : attempt.result = .ok ⟨attempt.grammar, cache.nextSerial⟩) :
    Remembers
      { loaded := (attempt.grammar, ⟨attempt.grammar, cache.nextSerial⟩) :: cache.loaded
        nextSerial := cache.nextSerial + 1 } (earlier ++ [attempt]) := by
  constructor
  case holds_iff =>
    intro grammar loaded
    rw [lookup_cons_eq, exists_given_concat, ← hcache.holds_iff]
    by_cases hsame : grammar = attempt.grammar
    · -- Before this load nothing has given the grammar.
      subst hsame
      simp [hlookup, hresult]
    · simp [hsame, Ne.symm hsame]
  case known =>
    intro grammar loaded hloaded
    rw [lookup_cons_eq] at hloaded
    split at hloaded
    next hsame => rw [hsame, hknown, Option.isSome_some]
    next => exact hcache.known grammar loaded hloaded
  case serial_lt =>
    intro grammar loaded hloaded
    rw [lookup_cons_eq] at hloaded
    split at hloaded
    next =>
      rw [← Option.some.inj hloaded]
      exact Nat.lt_succ_self _
    next => exact Nat.lt_succ_of_lt (hcache.serial_lt grammar loaded hloaded)
  case apart =>
    intro grammar other loaded object hloaded hobject hserial
    rw [lookup_cons_eq] at hloaded hobject
    -- The serial number of the new object is above all others.
    split at hloaded <;> split at hobject
    next hsame hother => rw [hsame, hother]
    next =>
      have hlt := hcache.serial_lt other object hobject
      rw [← hserial, ← Option.some.inj hloaded] at hlt
      exact absurd hlt (Nat.lt_irrefl _)
    next =>
      have hlt := hcache.serial_lt grammar loaded hloaded
      rw [hserial, ← Option.some.inj hobject] at hlt
      exact absurd hlt (Nat.lt_irrefl _)
    next => exact hcache.apart grammar other loaded object hloaded hobject hserial
  case told =>
    intro grammar
    have hnew : loadsTold [attempt] = [attempt.grammar] := by
      simp [loadsTold, hevents, grammarLoaded, Event.loadedGrammar?]
    rw [loadsTold_append, List.count_append, hcache.told, hnew, lookup_cons_eq]
    by_cases hsame : grammar = attempt.grammar
    · simp [hsame, hlookup]
    · rw [if_neg hsame, List.count_singleton, beq_false_of_ne (Ne.symm hsame)]
      simp

/-- A load leaves in the cache what the loads so far have given. -/
theorem afterLoad
    (hcache : cache.Remembers earlier) (faults : LibraryFaults) (grammar : String) :
    (LoadAttempt.cacheAfter ⟨cache, faults, grammar⟩).Remembers
      (earlier ++ [⟨cache, faults, grammar⟩]) := by
  unfold LoadAttempt.cacheAfter
  rcases cache.load_cases faults grammar with
    ⟨loaded, hlookup, hload⟩ | ⟨stop, _, _, hload⟩ | ⟨pack, hlookup, husable, hload⟩
  · rw [hload]
    refine hcache.afterUnchanged ?_ ?_
    · simp [LoadAttempt.events, hload]
    · intro object hobject
      simp only [LoadAttempt.result, hload] at hobject
      rw [← Except.ok.inj hobject]
      exact hlookup
  · rw [hload]
    refine hcache.afterUnchanged ?_ ?_
    · simp [LoadAttempt.events, hload]
    · intro object hobject
      simp [LoadAttempt.result, hload] at hobject
  · rw [hload]
    have hattempt : LoadAttempt.events ⟨cache, faults, grammar⟩ = [grammarLoaded grammar pack] := by
      simp [LoadAttempt.events, hload]
    exact hcache.afterNew ⟨cache, faults, grammar⟩ hlookup (Grammar.named?_of_usable? husable) hattempt
      (by simp [LoadAttempt.result, hload])

/-- Every load of a history finds a cache that remembers all loads before it. -/
theorem beforeAttempt
    (hcache : cache.Remembers earlier) {faults : LibraryFaults} {steps : List CacheStep}
    {front later : List LoadAttempt} {attempt : LoadAttempt}
    (hattempts : cache.attempts faults steps = front ++ attempt :: later) :
    attempt.cache.Remembers (earlier ++ front) := by
  induction steps generalizing cache faults earlier front with
  | nil => simp [attempts] at hattempts
  | cons step rest ih =>
      cases step with
      | libraries changed => exact ih hcache hattempts
      | load grammar =>
          rw [attempts] at hattempts
          cases front with
          | nil =>
              obtain ⟨hattempt, -⟩ := List.cons.inj hattempts
              rw [List.append_nil, ← hattempt]
              exact hcache
          | cons first front =>
              obtain ⟨hfirst, hrest⟩ := List.cons.inj hattempts
              have hnext := ih (hcache.afterLoad faults grammar) hrest
              rw [hfirst, List.append_assoc] at hnext
              exact hnext

theorem afterAttempt
    {attempt : LoadAttempt} (hcache : attempt.cache.Remembers earlier) :
    attempt.cacheAfter.Remembers (earlier ++ [attempt]) :=
  hcache.afterLoad attempt.faults attempt.grammar

theorem exists_gives_iff (hcache : cache.Remembers earlier) (grammar : String) :
    (∃ first ∈ earlier, first.gives grammar) ↔
      ∃ loaded, cache.loaded.lookup grammar = some loaded := by
  constructor
  · rintro ⟨first, hfirst, hgives⟩
    obtain ⟨hgrammar, loaded, hresult⟩ := LoadAttempt.gives_iff.mp hgives
    exact ⟨loaded, (hcache.holds_iff _ _).mpr ⟨first, hfirst, hgrammar, hresult⟩⟩
  · rintro ⟨loaded, hlookup⟩
    obtain ⟨first, hfirst, hgrammar, hresult⟩ := (hcache.holds_iff _ _).mp hlookup
    exact ⟨first, hfirst, LoadAttempt.gives_iff.mpr ⟨hgrammar, loaded, hresult⟩⟩

/-- A load succeeds if an earlier one did or the library can be used now. -/
theorem loads_iff
    {attempt : LoadAttempt} (hcache : attempt.cache.Remembers earlier) :
    (∃ loaded, attempt.result = .ok loaded) ↔
      (Pack.named? attempt.grammar).isSome ∧
        ((∃ first ∈ earlier, first.gives attempt.grammar) ∨
          (Grammar.usable? attempt.faults attempt.grammar).isSome) := by
  rw [hcache.exists_gives_iff]
  unfold LoadAttempt.result
  rcases attempt.cache.load_cases attempt.faults attempt.grammar with
    ⟨loaded, hlookup, hload⟩ | ⟨stop, hlookup, hrefusal, hload⟩ | ⟨pack, _, husable, hload⟩
  · have hknown := hcache.known _ _ hlookup
    simp [hload, hlookup, hknown]
  · simp [hload, hlookup, Grammar.usable?_eq_none_iff.mpr ⟨stop, hrefusal⟩]
  · simp [hload, husable, Grammar.named?_of_usable? husable]

/-- A load gives the object that any earlier load of its grammar gave, and none that a load
of another grammar gave. -/
theorem objects
    {attempt : LoadAttempt} (hcache : attempt.cache.Remembers earlier) {loaded : LoadedGrammar}
    (hloaded : attempt.result = .ok loaded) {first : LoadAttempt} (hfirst : first ∈ earlier)
    {object : LoadedGrammar} (hobject : first.result = .ok object) :
    (first.grammar = attempt.grammar → object = loaded) ∧
      (first.grammar ≠ attempt.grammar → object.serial ≠ loaded.serial) := by
  have hafter := hcache.afterAttempt
  have hheld :=
    (hafter.holds_iff attempt.grammar loaded).mpr ⟨attempt, by simp, rfl, hloaded⟩
  have hfirstHeld :=
    (hafter.holds_iff first.grammar object).mpr
      ⟨first, List.mem_append_left _ hfirst, rfl, hobject⟩
  constructor
  · intro hsame
    rw [hsame, hheld] at hfirstHeld
    exact (Option.some.inj hfirstHeld).symm
  · intro hother hserial
    exact hother (hafter.apart _ _ _ _ hfirstHeld hheld hserial)

/-- Of each grammar one load is told, if any succeeded. -/
theorem count_told (hcache : cache.Remembers earlier) (grammar : String) :
    (loadsTold earlier).count grammar = if earlier.any (·.gives grammar) then 1 else 0 := by
  have hany : earlier.any (·.gives grammar) = (cache.loaded.lookup grammar).isSome := by
    rw [Bool.eq_iff_iff, List.any_eq_true, Option.isSome_iff_exists]
    exact hcache.exists_gives_iff grammar
  rw [hcache.told, hany]

end Remembers

/-- Every history leaves a cache that remembers it. -/
theorem exists_remembers (faults : LibraryFaults) (steps : List CacheStep) :
    ∃ cache : GrammarCache, cache.Remembers (GrammarCache.attempts {} faults steps) := by
  rcases List.eq_nil_or_concat (GrammarCache.attempts {} faults steps) with
    hnil | ⟨front, last, hfront⟩
  · exact ⟨{}, by rw [hnil]; exact remembers_nothing⟩
  · refine ⟨last.cacheAfter, ?_⟩
    rw [List.concat_eq_append] at hfront
    rw [hfront]
    exact (remembers_nothing.beforeAttempt hfront).afterAttempt

/-- A load succeeds exactly if the grammar is known and has been loaded before or has a
library that can be used now.  All loads of one grammar give one object, and loads of
different grammars give different ones, so no two grammars share an entry of the cache.
A load that fails tells nothing and leaves the cache as it was, and it says why: the
grammar is not available, unless its library raises an error that loading does not expect.
Every grammar that is ever loaded is told once. -/
theorem load_history (faults : LibraryFaults) (steps : List CacheStep) :
    (∀ earlier attempt later,
        GrammarCache.attempts {} faults steps = earlier ++ attempt :: later →
          ((∃ loaded, attempt.result = .ok loaded) ↔
            (Pack.named? attempt.grammar).isSome ∧
              ((∃ first ∈ earlier, first.gives attempt.grammar) ∨
                (Grammar.usable? attempt.faults attempt.grammar).isSome)) ∧
          (∀ loaded, attempt.result = .ok loaded →
            ∀ first ∈ earlier, ∀ object, first.result = .ok object →
              (first.grammar = attempt.grammar → object = loaded) ∧
              (first.grammar ≠ attempt.grammar → object.serial ≠ loaded.serial)) ∧
          (∀ grammar other loaded,
            attempt.cacheAfter.loaded.lookup grammar = some loaded →
              attempt.cacheAfter.loaded.lookup other = some loaded → grammar = other) ∧
          ∀ stop, attempt.result = .error stop →
            attempt.cacheAfter = attempt.cache ∧ attempt.events = [] ∧
              ((∃ package reason,
                  stop = .fault (.grammarUnavailable attempt.grammar package reason)) ∨
                ∃ pack kind message, Pack.named? attempt.grammar = some pack ∧
                  attempt.faults.lookup pack.library = some (.raises kind message) ∧
                  stop = .raised kind message)) ∧
      ∀ grammar,
        (loadsTold (GrammarCache.attempts {} faults steps)).count grammar =
          if (GrammarCache.attempts {} faults steps).any (LoadAttempt.gives grammar) then 1
          else 0 := by
  constructor
  · intro earlier attempt later hattempts
    have hbefore : attempt.cache.Remembers earlier := remembers_nothing.beforeAttempt hattempts
    refine ⟨hbefore.loads_iff, ?_, ?_, ?_⟩
    · intro loaded hloaded first hfirst object hobject
      exact hbefore.objects hloaded hfirst hobject
    · intro grammar other loaded hgrammar hother
      exact hbefore.afterAttempt.apart grammar other loaded loaded hgrammar hother rfl
    · intro stop hstop
      obtain ⟨hrefusal, hcache, hevents⟩ := LoadAttempt.of_result_error hstop
      exact ⟨hcache, hevents, Grammar.refusal?_cases hrefusal⟩
  · intro grammar
    obtain ⟨cache, hcache⟩ := exists_remembers faults steps
    exact hcache.count_told grammar

/-- Two grammars of one library, which fails at first and again at the end. -/
def sharedLibrarySteps : List CacheStep :=
  [.libraries [("tree_sitter_typescript", .notInstalled)], .load "typescript", .libraries [],
    .load "tsx", .load "typescript",
    .libraries [("tree_sitter_typescript", .unusable "incompatible version")], .load "tsx"]

theorem load_history_sharedLibrary :
    ∃ missing tsx typescript again,
      GrammarCache.attempts {} [] sharedLibrarySteps = [missing, tsx, typescript] ++ [again] ∧
        missing.gives "typescript" = false ∧ typescript.gives "typescript" = true ∧
        Grammar.usable? again.faults "tsx" = none ∧
        (∃ loaded, again.result = .ok loaded ∧ tsx.result = .ok loaded ∧
          typescript.result ≠ .ok loaded) ∧
        loadsTold [missing, tsx, typescript, again] = ["tsx", "typescript"] := by
  refine ⟨_, _, _, _, rfl, by decide +kernel, by decide +kernel, by decide +kernel, ?_,
    by decide +kernel⟩
  obtain ⟨hloads, hsame, _, _⟩ :=
    (load_history [] sharedLibrarySteps).1 [_, _, _] _ [] rfl
  have hknown : (Pack.named? "tsx").isSome = true := by decide +kernel
  obtain ⟨loaded, hloaded⟩ :=
    hloads.mpr ⟨hknown, .inl ⟨_, List.mem_cons_of_mem _ List.mem_cons_self, by decide +kernel⟩⟩
  have htsx := (hsame loaded hloaded _ (List.mem_cons_of_mem _ List.mem_cons_self) _ rfl).1 rfl
  refine ⟨loaded, hloaded, congrArg Except.ok htsx, ?_⟩
  intro htypescript
  have hother := (hsame loaded hloaded _ (by simp) loaded htypescript).2 (by decide +kernel)
  exact hother rfl

end GrammarCache
end SourceOutline
