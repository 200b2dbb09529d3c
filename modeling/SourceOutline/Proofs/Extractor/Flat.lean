import SourceOutline.Proofs.Dependency.Edges
import SourceOutline.Proofs.Extractor.Directory

/-!
# Flat listings and records

A flat listing is made by a run of its own.  It agrees with the records of another
run because neither run depends on the session it begins in: both come to the same
files with the same outcome, and both stop for the same reason if they stop.  What
is listed for a file is then a matter of its record alone, whose identifiers are
all different.
-/

namespace SourceOutline
namespace Extractor

open Extraction

variable {α β γ : Type}

inductive Agree (related : α → β → Prop) : Except Stop α → Except Stop β → Prop
  | returned {value : α} {other : β} (hrelated : related value other) :
      Agree related (.ok value) (.ok other)
  | stopped (stop : Stop) : Agree related (.error stop) (.error stop)

/-- Two ways to go on from one computation agree when they agree on all that the
computation can give. -/
theorem agree_of_settled
    {faults : LibraryFaults} {x : Extraction α} {f : α → Extraction β} {g : α → Extraction γ}
    {post : α → Prop} {related : β → γ → Prop}
    (hsettled : x.Settled faults) (hpost : x.Ensures post)
    (hrelated : ∀ value, post value →
      ∃ result listed, f value = pure result ∧ g value = pure listed ∧ related result listed)
    {session other : Session}
    (hsession : session.cache.Usable faults) (hother : other.cache.Usable faults) :
    Agree related ((x >>= f).runFrom session).1 ((x >>= g).runFrom other).1 := by
  have hsame := hsettled.outcome_eq hsession hother
  rw [runFrom_bind, runFrom_bind]
  cases hfirst : x.runFrom session with
  | mk outcome next =>
      cases hsecond : x.runFrom other with
      | mk again last =>
          rw [hfirst, hsecond] at hsame
          obtain rfl : outcome = again := hsame
          cases outcome with
          | error stop => exact .stopped stop
          | ok value =>
              obtain ⟨result, listed, hresult, hlisted, hrel⟩ :=
                hrelated value (hpost session value next hfirst)
              simp only [hresult, hlisted, runFrom_pure]
              exact .returned hrel

/-- A list tells the functions and then the methods of each file in turn. -/
def Lists (files : List FileRecord) (listed : List FunctionRecord) : Prop :=
  List.Forall₂ (fun (file, function) flat => FileRecord.Flattened file function flat)
    (files.flatMap fun file => file.allFunctions.map fun function => (file, function)) listed

theorem lists_cons
    {file : FileRecord} {rest : List FileRecord} {listed others : List FunctionRecord}
    (hfile : List.Forall₂ file.Flattened file.allFunctions listed) (hrest : Lists rest others) :
    Lists (file :: rest) (listed ++ others) := by
  unfold Lists
  rw [List.flatMap_cons]
  refine List.rel_append ?_ hrest
  rw [List.forall₂_map_left_iff]
  exact hfile

theorem lists_flatten
    {found : List Extracted} (hdistinct : ∀ extracted ∈ found, extracted.record.ids.Nodup) :
    Lists (found.map Extracted.record) (found.flatMap Extracted.flatten) := by
  induction found with
  | nil => exact .nil
  | cons extracted rest ih =>
      have hfile := extracted.record.flatten_flattened (hdistinct extracted (by simp))
        (extracted.source.map Utf8.decode)
      refine lists_cons hfile (ih ?_)
      intro other hother
      exact hdistinct other (List.mem_cons_of_mem extracted hother)

variable {workspace : Workspace} {settings : ExtractionSettings}

/-- Both forms of the call stop alike, or the flat one lists what the other records. -/
theorem parseDirectoryLegacy_agrees
    {directory : Path} {extensions : List String} {session other : Session}
    (hsession : session.cache.Usable workspace.faults)
    (hother : other.cache.Usable workspace.faults) :
    Agree Lists ((parseDirectory workspace settings directory extensions).runFrom session).1
      ((parseDirectoryLegacy workspace settings directory extensions).runFrom other).1 := by
  refine agree_of_settled (scan_settled workspace settings directory extensions)
    (scan_ensures workspace settings directory extensions) ?_ hsession hother
  intro found hnumbered
  refine ⟨_, _, rfl, rfl, lists_flatten ?_⟩
  intro extracted hextracted
  obtain ⟨start, hstart⟩ := hnumbered.numberedFrom_of_mem (List.mem_map_of_mem hextracted)
  exact hstart.ids_nodup

theorem parseFileLegacy_agrees
    {path : Path} {session other : Session}
    (hsession : session.cache.Usable workspace.faults)
    (hother : other.cache.Usable workspace.faults) :
    Agree (fun file => Lists [file]) ((parseFile workspace settings path).runFrom session).1
      ((parseFileLegacy workspace settings path).runFrom other).1 := by
  refine agree_of_settled (extractFile?_settled workspace settings path 1)
    (extractFile?_ensures workspace settings path 1) ?_ hsession hother
  intro found hnumbered
  cases found with
  | none => exact ⟨_, _, rfl, rfl, .nil⟩
  | some extracted =>
      have hfile := extracted.record.flatten_flattened (hnumbered extracted rfl).1.ids_nodup
        (extracted.source.map Utf8.decode)
      have hlists : Lists [extracted.record] (extracted.flatten ++ []) :=
        lists_cons hfile .nil
      rw [List.append_nil] at hlists
      exact ⟨_, _, rfl, rfl, hlists⟩

theorem parseDirectoryLegacy_yields
    (hregular : workspace.Regular) {directory : Path} {extensions : List String}
    (hdirectory : extensions = [] → workspace.files.pathFault? directory.text = none)
    (hfiles : ∀ path ∈ scannedFiles workspace settings directory extensions,
      workspace.files.pathFault? path.text = none) :
    ∃ listed,
      (parseDirectoryLegacy workspace settings directory extensions).Yields workspace.faults
        (.ok listed) :=
  ⟨_, (scan_yields hregular hdirectory hfiles).bind (Yields.pure _ _)⟩

theorem parseFileLegacy_yields
    (settings : ExtractionSettings) (hregular : workspace.Regular) {path : Path}
    (hpath : workspace.files.pathFault? path.text = none) :
    ∃ listed,
      (parseFileLegacy workspace settings path).Yields workspace.faults (.ok listed) := by
  cases hparsed : isParsed path with
  | false =>
      exact ⟨_, (extractFile?_yields_of_not_isParsed _ hparsed 1).bind (Yields.pure _ _)⟩
  | true =>
      exact ⟨_, (extractFile?_yields_of_isParsed hregular hpath hparsed 1).bind
        (Yields.pure _ _)⟩

/-- A flat listing agrees with the records of a directory or of a file, whatever
the extractors have done before: it tells their functions and methods one by one,
and every dependency it adds is an edge inside their file.  It is returned as long
as the packs are complete, libraries fail only as loading expects, and the file system
can be asked about every path. -/
theorem legacy_agrees
    (workspace : Workspace) (settings : ExtractionSettings) (session other : Session)
    (hsession : session.cache.Usable workspace.faults)
    (hother : other.cache.Usable workspace.faults) :
    (∀ directory extensions,
        Agree Lists ((parseDirectory workspace settings directory extensions).runFrom session).1
          ((parseDirectoryLegacy workspace settings directory extensions).runFrom other).1) ∧
      (∀ path,
        Agree (fun file => Lists [file]) ((parseFile workspace settings path).runFrom session).1
          ((parseFileLegacy workspace settings path).runFrom other).1) ∧
      (workspace.Regular →
        (∀ directory extensions,
            (extensions = [] → workspace.files.pathFault? directory.text = none) →
            (∀ path ∈ scannedFiles workspace settings directory extensions,
              workspace.files.pathFault? path.text = none) →
            ∃ listed,
              ((parseDirectoryLegacy workspace settings directory extensions).runFrom other).1 =
                .ok listed) ∧
          ∀ path, workspace.files.pathFault? path.text = none →
            ∃ listed,
              ((parseFileLegacy workspace settings path).runFrom other).1 = .ok listed) := by
  refine ⟨?_, ?_, ?_⟩
  · intro directory extensions
    exact parseDirectoryLegacy_agrees hsession hother
  · intro path
    exact parseFileLegacy_agrees hsession hother
  · intro hregular
    constructor
    · intro directory extensions hdirectory hfiles
      obtain ⟨listed, hyields⟩ := parseDirectoryLegacy_yields hregular hdirectory hfiles
      exact ⟨listed, (hyields other hother).1⟩
    · intro path hpath
      obtain ⟨listed, hyields⟩ := parseFileLegacy_yields settings hregular hpath
      exact ⟨listed, (hyields other hother).1⟩

theorem legacy_agrees_sample :
    ∃ records listed,
      ((parseDirectory sampleWorkspace {} sampleDirectory sampleExtensions).runFrom {}).1 =
          .ok records ∧
        ((parseDirectoryLegacy sampleWorkspace {} sampleDirectory sampleExtensions).runFrom {}).1 =
          .ok listed ∧
        listed.map (fun function => (function.id, function.dependsOn)) =
          [(1, some [2]), (2, some [1]), (3, some [4]), (4, some [3])] ∧
        Lists records listed := by
  let listed := (extractedAll sampleWorkspace {} 1 (sampleFiles.filter isParsed)).flatMap
    Extracted.flatten
  have hyields :
      (parseDirectoryLegacy sampleWorkspace {} sampleDirectory sampleExtensions).Yields
        sampleWorkspace.faults (.ok listed) :=
    sample_scan.bind (Yields.pure _ _)
  have hlisted := (hyields {} (GrammarCache.usable_empty _)).1
  have hagree :=
    (legacy_agrees sampleWorkspace {} {} {} (GrammarCache.usable_empty _)
      (GrammarCache.usable_empty _)).1 sampleDirectory sampleExtensions
  rw [hlisted] at hagree
  generalize ((parseDirectory sampleWorkspace {} sampleDirectory sampleExtensions).runFrom {}).1 =
    outcome at hagree
  cases hagree with
  | returned hlists => exact ⟨_, listed, rfl, hlisted, by decide +kernel, hlists⟩

end Extractor
end SourceOutline
