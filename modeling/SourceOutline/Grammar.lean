import SourceOutline.Fault
import SourceOutline.Files.Path
import SourceOutline.Language.Pack
import SourceOutline.Log.Event

/-!
# Choosing and loading grammars

The grammar of a file is chosen by its extension.  A grammar is loaded from a
library the first time it is needed and is kept from then on, so a library that
later becomes unusable does no harm to grammars already loaded.  A load that
fails leaves no trace.  Of a library it is expected that it may be missing or
unusable; any other error that it raises is passed on.
-/

namespace SourceOutline

/-- A loaded grammar.  Each load makes an object of its own, told apart from all
others by its serial number. -/
structure LoadedGrammar where
  grammar : String
  serial : Nat
  deriving DecidableEq, Repr

/-- What goes wrong with a library. -/
inductive LibraryFault where
  | notInstalled
  | unusable (reason : String)
  /-- It raises an error of another kind. -/
  | raises (kind message : String)
  deriving DecidableEq, Repr

namespace LibraryFault

def stop (grammar package : String) : LibraryFault → Stop
  | notInstalled => .fault (.grammarUnavailable grammar package "not installed")
  | unusable reason => .fault (.grammarUnavailable grammar package reason)
  | raises kind message => .raised kind message

end LibraryFault

/-- The libraries that cannot be used, with the reasons. -/
abbrev LibraryFaults := List (String × LibraryFault)

/-- The grammars loaded so far and the serial number of the next one. -/
structure GrammarCache where
  loaded : List (String × LoadedGrammar) := []
  nextSerial : Nat := 0
  deriving DecidableEq, Repr

namespace Grammar

/-- The grammar for a path, with the events that tell why there is none. -/
def resolve (path : String) : Option String × List Event :=
  let extension := (Path.ofString path).extension
  if Pack.skippedExtensions.contains extension then
    (none, [⟨.warning, "json_file_skipped", [("path", .text path)]⟩])
  else
    match Pack.forExtension? extension with
    | some pack => (some pack.name, [])
    | none =>
        (none, [⟨.warning, "unsupported_extension",
          [("path", .text path), ("ext", .text extension)]⟩])

/-- Whether the library of a grammar is found. -/
def isInstalled (found : String → Bool) (grammar : String) : Bool :=
  (Pack.named? grammar).any fun pack => found pack.library

def installed (found : String → Bool) : List String :=
  (Pack.all.map Pack.name).filter (isInstalled found)

end Grammar

namespace GrammarCache

/-- Loads a grammar, or takes it from the cache. -/
def load (cache : GrammarCache) (faults : LibraryFaults) (grammar : String) :
    Except Stop LoadedGrammar × GrammarCache × List Event :=
  match cache.loaded.lookup grammar with
  | some loaded => (.ok loaded, cache, [])
  | none =>
      match Pack.named? grammar with
      | none => (.error (.fault (.grammarUnavailable grammar "" "unknown grammar")), cache, [])
      | some pack =>
          match faults.lookup pack.library with
          | some fault => (.error (fault.stop grammar pack.package), cache, [])
          | none =>
              let loaded := ⟨grammar, cache.nextSerial⟩
              (.ok loaded,
                { loaded := (grammar, loaded) :: cache.loaded
                  nextSerial := cache.nextSerial + 1 },
                [⟨.debug, "grammar_loaded",
                  [("grammar", .text grammar), ("module", .text pack.library)]⟩])

end GrammarCache
end SourceOutline
