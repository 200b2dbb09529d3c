/-!
# Settings of the extraction

What a user may choose about how declarations are extracted.
-/

namespace SourceOutline

structure ExtractionSettings where
  /-- A comment belongs to a declaration if it ends at most so many lines above. -/
  commentMaxDistance : Int := 9
  /-- Extensions to look for when a directory shows none. -/
  defaultExtensions : List String := [".js", ".ts", ".jsx", ".tsx"]
  /-- Names of directories that scans leave out. -/
  extraExcludedDirs : List String := []
  /-- Larger files make empty records; zero means that there is no limit. -/
  maxFileSizeMb : Int := 5
  /-- Whether a flat list of functions with dependencies is wanted. -/
  legacyDependencies : Bool := false
  deriving DecidableEq, Repr

end SourceOutline
