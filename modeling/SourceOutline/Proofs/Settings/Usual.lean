import SourceOutline.Proofs.Settings.Environment
import SourceOutline.Settings.Usual

/-!
# The rules that the usual libraries keep

The usual libraries take plain data as they are, make nothing but models of mappings, and
merge layers as mappings.
-/

namespace SourceOutline
namespace Library

/-- The usual library takes plain data as they are. -/
theorem usual_keepsPlain : usual.KeepsPlain where
  integer _ := rfl
  boolean _ := rfl
  string _ := rfl
  literal _ _ hword := if_pos (List.contains_iff_mem.mpr hword)
  items _ := rfl
  entries _ _ := rfl

theorem usual_refusesMappings : usual.RefusesMappings := by
  constructor <;> intros <;> simp [usual, Coercion.integer, Coercion.boolean, Coercion.literal,
    Coercion.items]

theorem readDocument_eq_ok {text : List Char} {value : Value}
    (hread : readDocument text = .ok value) : Yaml.read text = .ok value := by
  unfold readDocument at hread
  split at hread
  next found hyaml =>
    obtain rfl := Except.ok.inj hread
    exact hyaml
  next => cases hread
  next => cases hread

/-- The usual library reads and merges layers field by field. -/
theorem usual_layers : usual.Layers Json.read? where
  documents _ _ hread := Yaml.read_distinct (readDocument_eq_ok hread)
  readVariables _ hknown := Environment.toEntries_of_known hknown
  overlay _ _ := rfl

end Library
end SourceOutline
