import SourceOutline.Extractor

/-!
# Running an extraction

An extraction is run from a session and leaves a session.  Two things are said of
such runs.  `Ensures` speaks of the value that a run gives, if it gives one, from
whatever session it begins.  `Yields` fixes the outcome of all runs that begin with
a usable cache, and promises that such a cache is left behind.

A cache is sound when the object that it keeps for a grammar is one of this grammar.
Soundness is what makes the past of an extractor harmless: the parser is set to the
object that a load gives, be it new or taken from the cache, and a tree depends on
nothing of this object but its grammar.  A cache is usable when moreover each of its
grammars could be loaded again; as long as the same libraries fail, no cache ever
holds another grammar.
-/

namespace SourceOutline

/-! ## Loading -/

def Grammar.usable? (faults : LibraryFaults) (grammar : String) : Option Pack :=
  (Pack.named? grammar).filter fun pack => (faults.lookup pack.library).isNone

/-- What stops a load of a grammar that no cache holds. -/
def Grammar.refusal? (faults : LibraryFaults) (grammar : String) : Option Stop :=
  match Pack.named? grammar with
  | none => some (.fault (.grammarUnavailable grammar "" "unknown grammar"))
  | some pack => (faults.lookup pack.library).map (·.stop grammar pack.package)

/-- Libraries fail in no other way than loading expects. -/
def LibraryFaults.Expected (faults : LibraryFaults) : Prop :=
  ∀ library kind message, faults.lookup library ≠ some (.raises kind message)

/-- What a workspace needs so that nothing but a path stops a call: complete packs, and
libraries that fail only as loading expects. -/
structure Workspace.Regular (workspace : Workspace) : Prop where
  packs : workspace.packs = Pack.all
  libraries : workspace.faults.Expected

namespace Grammar

variable {faults : LibraryFaults} {grammar : String}

theorem named?_of_usable? {pack : Pack} (husable : usable? faults grammar = some pack) :
    Pack.named? grammar = some pack :=
  (Option.filter_eq_some_iff.mp husable).1

theorem usable?_eq_none_iff :
    usable? faults grammar = none ↔ ∃ stop, refusal? faults grammar = some stop := by
  unfold usable? refusal?
  cases Pack.named? grammar with
  | none => simp
  | some pack =>
      cases hfault : faults.lookup pack.library <;> simp [Option.filter_some, hfault]

/-- A refusal tells that the grammar is not available, or passes on what the library
raises. -/
theorem refusal?_cases {stop : Stop} (hrefusal : refusal? faults grammar = some stop) :
    (∃ package reason, stop = .fault (.grammarUnavailable grammar package reason)) ∨
      ∃ pack kind message, Pack.named? grammar = some pack ∧
        faults.lookup pack.library = some (.raises kind message) ∧ stop = .raised kind message := by
  unfold refusal? at hrefusal
  cases hpack : Pack.named? grammar with
  | none =>
      rw [hpack] at hrefusal
      exact .inl ⟨_, _, (Option.some.inj hrefusal).symm⟩
  | some pack =>
      rw [hpack] at hrefusal
      obtain ⟨fault, hfault, rfl⟩ := Option.map_eq_some_iff.mp hrefusal
      cases fault with
      | notInstalled => exact .inl ⟨_, _, rfl⟩
      | unusable reason => exact .inl ⟨_, _, rfl⟩
      | raises kind message => exact .inr ⟨pack, kind, message, rfl, hfault, rfl⟩

theorem refusal?_of_expected {stop : Stop} (hfaults : faults.Expected)
    (hrefusal : refusal? faults grammar = some stop) :
    ∃ package reason, stop = .fault (.grammarUnavailable grammar package reason) := by
  rcases refusal?_cases hrefusal with hfault | ⟨pack, kind, message, _, hraises, _⟩
  · exact hfault
  · exact absurd hraises (hfaults _ _ _)

end Grammar

namespace GrammarCache

def grammarLoaded (grammar : String) (pack : Pack) : Event :=
  ⟨.debug, "grammar_loaded", [("grammar", .text grammar), ("module", .text pack.library)]⟩

/-- What a load can do: take a grammar from the cache, refuse one that is not
usable, or load a new one. -/
theorem load_cases (cache : GrammarCache) (faults : LibraryFaults) (grammar : String) :
    (∃ loaded, cache.loaded.lookup grammar = some loaded ∧
        cache.load faults grammar = (.ok loaded, cache, [])) ∨
      (∃ stop, cache.loaded.lookup grammar = none ∧
        Grammar.refusal? faults grammar = some stop ∧
        cache.load faults grammar = (.error stop, cache, [])) ∨
      ∃ pack, cache.loaded.lookup grammar = none ∧
        Grammar.usable? faults grammar = some pack ∧
        cache.load faults grammar =
          (.ok ⟨grammar, cache.nextSerial⟩,
            { loaded := (grammar, ⟨grammar, cache.nextSerial⟩) :: cache.loaded
              nextSerial := cache.nextSerial + 1 }, [grammarLoaded grammar pack]) := by
  unfold load Grammar.usable? Grammar.refusal?
  cases hlookup : cache.loaded.lookup grammar with
  | some loaded => exact .inl ⟨loaded, rfl, rfl⟩
  | none =>
      right
      cases hpack : Pack.named? grammar with
      | none => exact .inl ⟨_, rfl, rfl, rfl⟩
      | some pack =>
          cases hfault : faults.lookup pack.library with
          | some fault =>
              left
              simp only [hfault, Option.map_some]
              exact ⟨_, trivial, rfl, rfl⟩
          | none =>
              right
              simp only [hfault, Option.filter_some, Option.isNone_none]
              exact ⟨pack, trivial, rfl, rfl⟩

/-- Every object of a cache is one of the known grammar for which it is kept. -/
def Sound (cache : GrammarCache) : Prop :=
  ∀ grammar loaded, cache.loaded.lookup grammar = some loaded →
    loaded.grammar = grammar ∧ (Pack.named? grammar).isSome

theorem sound_empty : Sound {} := by
  intro grammar loaded hloaded
  simp at hloaded

/-- A load from a sound cache gives an object of the grammar that was asked for, and
leaves a sound cache. -/
theorem Sound.load {cache : GrammarCache} (hcache : cache.Sound) (faults : LibraryFaults)
    (grammar : String) :
    (∀ loaded, (cache.load faults grammar).1 = .ok loaded → loaded.grammar = grammar) ∧
      (cache.load faults grammar).2.1.Sound := by
  rcases cache.load_cases faults grammar with
    ⟨kept, hlookup, hload⟩ | ⟨stop, _, _, hload⟩ | ⟨pack, _, husable, hload⟩
  · rw [hload]
    refine ⟨fun loaded hloaded => ?_, hcache⟩
    rw [← Except.ok.inj hloaded]
    exact (hcache grammar kept hlookup).1
  · rw [hload]
    exact ⟨fun loaded hloaded => (by cases hloaded), hcache⟩
  · rw [hload]
    refine ⟨fun loaded hloaded => by rw [← Except.ok.inj hloaded], ?_⟩
    intro other loaded hother
    rw [List.lookup_cons] at hother
    split at hother
    next hsame =>
      rw [← Option.some.inj hother, eq_of_beq hsame, Grammar.named?_of_usable? husable]
      exact ⟨rfl, rfl⟩
    next => exact hcache other loaded hother

/-- A sound cache, every grammar of which could be loaded again. -/
structure Usable (faults : LibraryFaults) (cache : GrammarCache) : Prop where
  sound : cache.Sound
  loadable : ∀ grammar, (cache.loaded.lookup grammar).isSome →
    (Grammar.usable? faults grammar).isSome

theorem usable_empty (faults : LibraryFaults) : Usable faults {} := by
  refine ⟨sound_empty, ?_⟩
  intro grammar hloaded
  simp at hloaded

/-- Whether a load from a usable cache succeeds does not depend on the cache. -/
theorem Usable.load
    {faults : LibraryFaults} {cache : GrammarCache} (hcache : cache.Usable faults)
    (grammar : String) :
    (∃ pack loaded, Grammar.usable? faults grammar = some pack ∧ loaded.grammar = grammar ∧
        (cache.load faults grammar).1 = .ok loaded ∧
        (cache.load faults grammar).2.1.Usable faults) ∨
      ∃ stop, Grammar.refusal? faults grammar = some stop ∧
        cache.load faults grammar = (.error stop, cache, []) := by
  obtain ⟨hgrammar, hsound⟩ := hcache.sound.load faults grammar
  rcases cache.load_cases faults grammar with
    ⟨loaded, hlookup, hload⟩ | ⟨stop, _, hrefusal, hload⟩ | ⟨pack, _, husable, hload⟩
  · left
    obtain ⟨pack, husable⟩ :=
      Option.isSome_iff_exists.mp (hcache.loadable grammar (by rw [hlookup, Option.isSome_some]))
    rw [hload] at hgrammar ⊢
    exact ⟨pack, loaded, husable, hgrammar loaded rfl, rfl, hcache⟩
  · exact .inr ⟨stop, hrefusal, hload⟩
  · left
    rw [hload] at hgrammar hsound ⊢
    refine ⟨pack, _, husable, hgrammar _ rfl, rfl, hsound, ?_⟩
    intro other hother
    by_cases hsame : other = grammar
    · rw [hsame, husable, Option.isSome_some]
    · rw [List.lookup_cons, beq_false_of_ne hsame] at hother
      exact hcache.loadable other hother

end GrammarCache

namespace Extraction

variable {α β : Type}

def runFrom (x : Extraction α) (session : Session) : Except Stop α × Session :=
  x.run.run session

@[simp] theorem runFrom_pure (value : α) (session : Session) :
    runFrom (pure value) session = (.ok value, session) := rfl

@[simp] theorem runFrom_throw (stop : Stop) (session : Session) :
    runFrom (throw stop : Extraction α) session = (.error stop, session) := rfl

@[simp] theorem runFrom_tell (events : List Event) (session : Session) :
    runFrom (tell events) session =
      (.ok (), { session with events := session.events ++ events }) := rfl

@[simp] theorem runFrom_setLanguage (loaded : LoadedGrammar) (session : Session) :
    runFrom (setLanguage loaded) session = (.ok (), { session with language := some loaded }) :=
  rfl

@[simp] theorem runFrom_attempt (x : Extraction α) (session : Session) :
    runFrom (attempt x) session = (.ok (x.runFrom session).1, (x.runFrom session).2) := rfl

@[simp] theorem runFrom_ofExcept (outcome : Except Stop α) (session : Session) :
    runFrom (ofExcept outcome) session = (outcome, session) := by
  cases outcome <;> rfl

theorem runFrom_loadGrammar (workspace : Workspace) (grammar : String) (session : Session) :
    runFrom (loadGrammar workspace grammar) session =
      ((session.cache.load workspace.faults grammar).1,
        { session with
          cache := (session.cache.load workspace.faults grammar).2.1
          events := session.events ++ (session.cache.load workspace.faults grammar).2.2 }) := by
  cases hload : session.cache.load workspace.faults grammar with
  | mk result rest =>
      have hrun : runFrom (loadGrammar workspace grammar) session =
          runFrom (ofExcept (session.cache.load workspace.faults grammar).1)
            { session with
              cache := (session.cache.load workspace.faults grammar).2.1
              events := session.events ++ (session.cache.load workspace.faults grammar).2.2 } :=
        rfl
      rw [hrun, runFrom_ofExcept, hload]

theorem runFrom_get_bind (f : Session → Extraction α) (session : Session) :
    runFrom (get >>= f) session = runFrom (f session) session := rfl

/-- A parse uses the grammar to which the parser was set last. -/
theorem runFrom_parse
    {workspace : Workspace} {session : Session} {loaded : LoadedGrammar}
    (hlanguage : session.language = some loaded) (source : Bytes) :
    runFrom (parse workspace source) session =
      (.ok (workspace.parse loaded.grammar source), session) := by
  unfold parse
  rw [runFrom_get_bind, hlanguage, runFrom_pure]

/-- A stop ends what would come after it and keeps what came before. -/
theorem runFrom_bind (x : Extraction α) (f : α → Extraction β) (session : Session) :
    runFrom (x >>= f) session =
      match runFrom x session with
      | (.ok value, next) => runFrom (f value) next
      | (.error stop, next) => (.error stop, next) := by
  cases hx : runFrom x session with
  | mk outcome next =>
      have hrun : (x.run.run session : Id _) = (outcome, next) := hx
      simp only [runFrom, ExceptT.run_bind, StateT.run_bind, hrun]
      cases outcome <;> rfl

theorem runFrom_bind_ok
    {x : Extraction α} {f : α → Extraction β} {session final : Session} {result : β}
    (hrun : runFrom (x >>= f) session = (.ok result, final)) :
    ∃ value next, runFrom x session = (.ok value, next) ∧
      runFrom (f value) next = (.ok result, final) := by
  rw [runFrom_bind] at hrun
  cases hfirst : runFrom x session with
  | mk outcome next =>
      rw [hfirst] at hrun
      cases outcome with
      | ok value => exact ⟨value, next, rfl, hrun⟩
      | error stop => cases hrun

/-! ## What a run gives, if it gives something -/

/-- Every value that a computation gives has a property. -/
def Ensures (x : Extraction α) (post : α → Prop) : Prop :=
  ∀ session value final, x.runFrom session = (.ok value, final) → post value

namespace Ensures

theorem pure {post : α → Prop} {value : α} (hvalue : post value) :
    Ensures (Pure.pure value) post := by
  intro session result final hrun
  rw [runFrom_pure] at hrun
  cases hrun
  exact hvalue

theorem throw (stop : Stop) (post : α → Prop) :
    Ensures (throw stop : Extraction α) post := by
  intro session result final hrun
  rw [runFrom_throw] at hrun
  cases hrun

theorem bind
    {x : Extraction α} {f : α → Extraction β} {mid : α → Prop} {post : β → Prop}
    (hx : x.Ensures mid) (hf : ∀ value, mid value → (f value).Ensures post) :
    (x >>= f).Ensures post := by
  intro session result final hrun
  obtain ⟨value, next, hfirst, hsecond⟩ := runFrom_bind_ok hrun
  exact hf value (hx session value next hfirst) next result final hsecond

theorem bind_any
    {x : Extraction α} {f : α → Extraction β} {post : β → Prop}
    (hf : ∀ value, (f value).Ensures post) : (x >>= f).Ensures post := by
  have hx : x.Ensures fun _ => True := fun _ _ _ _ => trivial
  exact hx.bind fun value _ => hf value

end Ensures

/-! ## What every run gives -/

/-- From every session with a cache of usable grammars a computation has the same
outcome, and it leaves such a cache. -/
def Yields (faults : LibraryFaults) (x : Extraction α) (outcome : Except Stop α) : Prop :=
  ∀ session, session.cache.Usable faults →
    (x.runFrom session).1 = outcome ∧ (x.runFrom session).2.cache.Usable faults

namespace Yields

variable {faults : LibraryFaults}

theorem ok_inj
    {x : Extraction α} {value other : α} (hvalue : x.Yields faults (.ok value))
    (hother : x.Yields faults (.ok other)) : value = other := by
  have houtcome := (hvalue {} (GrammarCache.usable_empty faults)).1
  rw [(hother {} (GrammarCache.usable_empty faults)).1] at houtcome
  exact (Except.ok.inj houtcome).symm

theorem pure (faults : LibraryFaults) (value : α) :
    Yields faults (Pure.pure value) (.ok value) := by
  intro session hcache
  exact ⟨rfl, hcache⟩

theorem throw (faults : LibraryFaults) (stop : Stop) :
    Yields faults (throw stop : Extraction α) (.error stop) := by
  intro session hcache
  exact ⟨rfl, hcache⟩

theorem tell (faults : LibraryFaults) (events : List Event) :
    Yields faults (tell events) (.ok ()) := by
  intro session hcache
  exact ⟨rfl, hcache⟩

theorem bind
    {x : Extraction α} {f : α → Extraction β} {value : α} {outcome : Except Stop β}
    (hx : x.Yields faults (.ok value)) (hf : (f value).Yields faults outcome) :
    (x >>= f).Yields faults outcome := by
  intro session hcache
  obtain ⟨hvalue, hnext⟩ := hx session hcache
  rw [runFrom_bind]
  cases hfirst : x.runFrom session with
  | mk result next =>
      rw [hfirst] at hvalue hnext
      obtain rfl : result = .ok value := hvalue
      exact hf next hnext

theorem bind_stop
    {x : Extraction α} {stop : Stop} (hx : x.Yields faults (.error stop))
    (f : α → Extraction β) : (x >>= f).Yields faults (.error stop) := by
  intro session hcache
  obtain ⟨hstop, hnext⟩ := hx session hcache
  rw [runFrom_bind]
  cases hfirst : x.runFrom session with
  | mk result next =>
      rw [hfirst] at hstop hnext
      obtain rfl : result = .error stop := hstop
      exact ⟨rfl, hnext⟩

end Yields

/-- A computation whose outcome does not depend on the session it begins in. -/
def Settled (faults : LibraryFaults) (x : Extraction α) : Prop :=
  ∃ outcome, x.Yields faults outcome

namespace Settled

variable {faults : LibraryFaults}

theorem bind
    {x : Extraction α} {f : α → Extraction β}
    (hx : x.Settled faults) (hf : ∀ value, (f value).Settled faults) :
    (x >>= f).Settled faults := by
  obtain ⟨outcome, hyields⟩ := hx
  cases outcome with
  | ok value =>
      obtain ⟨result, hresult⟩ := hf value
      exact ⟨result, hyields.bind hresult⟩
  | error stop => exact ⟨.error stop, hyields.bind_stop f⟩

/-- From usable sessions a settled computation comes to one outcome. -/
theorem outcome_eq
    {x : Extraction α} (hx : x.Settled faults) {session other : Session}
    (hsession : session.cache.Usable faults) (hother : other.cache.Usable faults) :
    (x.runFrom session).1 = (x.runFrom other).1 := by
  obtain ⟨outcome, hyields⟩ := hx
  rw [(hyields session hsession).1, (hyields other hother).1]

end Settled

end Extraction

/-! ## Extracting one file -/

namespace Extractor

open Extraction

variable {workspace : Workspace} {settings : ExtractionSettings} {path : Path}
  {grammar : String} {id : Int}

/-- A file is extracted in three steps: its source is read, its grammar is loaded, and
what the loaded grammar finds in the source is assembled. -/
theorem extract_runFrom (session : Session) :
    (extract workspace settings path grammar id).runFrom session =
      match readSource workspace settings path with
      | .error stop => (contain path id stop).runFrom session
      | .ok source =>
          match session.cache.load workspace.faults grammar with
          | (.error stop, cache, events) =>
              (contain path id stop).runFrom
                { session with cache, events := session.events ++ events }
          | (.ok loaded, cache, events) =>
              (assembled workspace settings path grammar id source
                (workspace.parse loaded.grammar source)).runFrom
                { cache, language := some loaded, events := session.events ++ events } := by
  unfold extract prepare
  simp only [runFrom_bind, runFrom_attempt, runFrom_ofExcept]
  cases readSource workspace settings path with
  | error stop => rfl
  | ok source =>
      simp only [runFrom_loadGrammar]
      cases session.cache.load workspace.faults grammar with
      | mk result rest =>
          cases result with
          | error stop => rfl
          | ok loaded =>
              simp only [runFrom_setLanguage, runFrom_pure]
              rw [runFrom_bind, runFrom_parse rfl]

/-- From a usable cache the outcome of an extraction is settled by the source and by the
libraries. -/
theorem extract_yields_of
    {outcome : Except Stop Extracted}
    (hunread : ∀ stop, readSource workspace settings path = .error stop →
      (contain path id stop).Yields workspace.faults outcome)
    (hrefused : ∀ source stop, readSource workspace settings path = .ok source →
      Grammar.refusal? workspace.faults grammar = some stop →
      (contain path id stop).Yields workspace.faults outcome)
    (hparsed : ∀ source pack, readSource workspace settings path = .ok source →
      Grammar.usable? workspace.faults grammar = some pack →
      (assembled workspace settings path grammar id source
        (workspace.parse grammar source)).Yields workspace.faults outcome) :
    (extract workspace settings path grammar id).Yields workspace.faults outcome := by
  intro session hcache
  rw [extract_runFrom]
  cases hsource : readSource workspace settings path with
  | error stop => exact hunread stop hsource session hcache
  | ok source =>
      rcases hcache.load grammar with
        ⟨pack, loaded, husable, hgrammar, hload, hnext⟩ | ⟨stop, hrefusal, hload⟩
      · cases hresult : session.cache.load workspace.faults grammar with
        | mk result rest =>
            rw [hresult] at hload hnext
            obtain rfl : result = .ok loaded := hload
            rw [← hgrammar] at hparsed husable ⊢
            exact hparsed source pack hsource husable _ hnext
      · simp only [hload]
        exact hrefused source stop hsource hrefusal _ hcache

end Extractor
end SourceOutline
