import SourceOutline.Proofs.Data.Distinct

/-!
# The leaves of merged mappings

A value inside nested mappings is found by the keys that lead to it, and what is no mapping
is a leaf.  Merging overrides leaf by leaf: a leaf of the upper mapping stands where it was,
and a leaf of the lower one stays unless the upper mapping has something at its path or a leaf
on the way to it.  There are no other leaves.

Both facts come from one step.  Below a key, the merged mapping has what the upper mapping has
there, laid over what the lower one has there, so that a path is followed in the two mappings
and in the merged one at the same time.
-/

namespace SourceOutline

/-! ## Values on a path -/

namespace Value

def isMap : Value → Bool
  | .map _ => true
  | _ => false

def entries : Value → Entries
  | .map entries => entries
  | _ => []

/-- The value to which the keys of a path lead. -/
def at? (value : Value) : List Key → Option Value
  | [] => some value
  | key :: path => (Entries.find? value.entries key).bind fun child => child.at? path

/-- A leaf is a value that is no mapping. -/
def HasLeaf (value : Value) (path : List Key) (leaf : Value) : Prop :=
  value.at? path = some leaf ∧ ¬ leaf.isMap

/-- There is no value at the path, and no leaf on the way to it. -/
def LeavesOpen (value : Value) (path : List Key) : Prop :=
  value.at? path = none ∧
    ∀ front leaf, front <+: path → front ≠ path → ¬ value.HasLeaf front leaf

theorem exists_of_isMap {value : Value} (hmap : value.isMap) : ∃ entries, value = .map entries := by
  cases value with
  | map entries => exact ⟨entries, rfl⟩
  | _ => contradiction

theorem ne_map_of_not_isMap {value : Value} (hleaf : ¬ value.isMap) (entries : Entries) :
    value ≠ .map entries := by
  rintro rfl
  exact hleaf rfl

theorem hasLeaf_nil {value leaf : Value} :
    value.HasLeaf [] leaf ↔ value = leaf ∧ ¬ leaf.isMap := by
  rw [HasLeaf, at?, Option.some.injEq]

theorem not_hasLeaf_map_nil (entries : Entries) (leaf : Value) :
    ¬ (Value.map entries).HasLeaf [] leaf := by
  rw [hasLeaf_nil]
  rintro ⟨rfl, hleaf⟩
  exact hleaf rfl

theorem hasLeaf_cons {value leaf : Value} {key : Key} {path : List Key} :
    value.HasLeaf (key :: path) leaf ↔
      ∃ child, Entries.find? value.entries key = some child ∧ child.HasLeaf path leaf := by
  simp only [HasLeaf, at?, Option.bind_eq_some_iff]
  constructor
  · rintro ⟨⟨child, hchild, hat⟩, hleaf⟩
    exact ⟨child, hchild, hat, hleaf⟩
  · rintro ⟨child, hchild, hat, hleaf⟩
    exact ⟨⟨child, hchild, hat⟩, hleaf⟩

theorem not_leavesOpen_nil (value : Value) : ¬ value.LeavesOpen [] := by
  rintro ⟨hnone, _⟩
  simp [at?] at hnone

theorem leavesOpen_cons {value : Value} {key : Key} {path : List Key} :
    value.LeavesOpen (key :: path) ↔
      value.isMap ∧
        ∀ child, Entries.find? value.entries key = some child → child.LeavesOpen path := by
  constructor
  · rintro ⟨hnone, hway⟩
    refine ⟨?_, ?_⟩
    · by_contra hleaf
      exact hway [] value List.nil_prefix (by simp) (hasLeaf_nil.mpr ⟨rfl, hleaf⟩)
    · intro child hchild
      rw [at?, hchild, Option.bind_some] at hnone
      refine ⟨hnone, ?_⟩
      intro front leaf hfront hne hleaf
      exact hway (key :: front) leaf (List.cons_prefix_cons.mpr ⟨rfl, hfront⟩) (by simpa using hne)
        (hasLeaf_cons.mpr ⟨child, hchild, hleaf⟩)
  · rintro ⟨hmap, hchildren⟩
    refine ⟨?_, ?_⟩
    · rw [at?, Option.bind_eq_none_iff]
      intro child hchild
      exact (hchildren child hchild).1
    · rintro (_ | ⟨first, front⟩) leaf hfront hne hleaf
      · obtain ⟨rfl, hleaf⟩ := hasLeaf_nil.mp hleaf
        exact hleaf hmap
      · obtain ⟨rfl, hrest⟩ := List.cons_prefix_cons.mp hfront
        obtain ⟨child, hchild, hleaf⟩ := hasLeaf_cons.mp hleaf
        exact (hchildren child hchild).2 front leaf hrest (by simpa using hne) hleaf

end Value

namespace Entries

variable {below upper : Entries}

/-! ## Merging below a key -/

theorem Apart.find?_of_mem (hupper : upper.Apart) {entry : Key × Value} (hentry : entry ∈ upper) :
    find? upper entry.1 = some entry.2 := by
  induction upper with
  | nil => contradiction
  | cons first rest ih =>
      obtain ⟨hfirst, hrest⟩ := List.pairwise_cons.mp hupper
      rw [find?_cons]
      rcases List.mem_cons.mp hentry with rfl | hmem
      · exact if_pos rfl
      · have hother : ¬ entry.1.meaning = first.1.meaning := by
          intro hsame
          exact hfirst entry.1 (List.mem_map_of_mem hmem) (Key.same_iff.mpr hsame.symm)
        rw [if_neg hother]
        exact ih hrest hmem

/-- What is found after merging, under any key, if the upper mapping has each key once. -/
theorem Apart.find?_merge (hupper : upper.Apart) (below : Entries) (key : Key) :
    find? (merge below upper) key =
      ((find? upper key).map (Value.over (find? below key))).or (find? below key) := by
  apply find?_merge_of_once
  refine (List.pairwise_map.mp hupper).imp ?_
  intro first second hapart hfirst hsecond
  exact hapart (Key.same_iff.mpr (hfirst.symm.trans hsecond))

theorem merge_eq_append (hkeys : (below ++ upper).Apart) : merge below upper = below ++ upper := by
  induction upper generalizing below with
  | nil => rw [merge_nil, List.append_nil]
  | cons entry rest ih =>
      obtain ⟨key, value⟩ := entry
      have hnew : ∀ other ∈ below, ¬ other.1.same key := by
        unfold Apart at hkeys
        rw [List.map_append, List.pairwise_append] at hkeys
        intro other hother
        exact hkeys.2.2 _ (List.mem_map_of_mem hother) key (by simp)
      have hnone : find? below key = none := by
        rw [find?_eq_none_iff]
        intro other hother hsame
        exact hnew other hother (Key.same_iff.mpr hsame.symm)
      rw [merge_cons, hnone, Value.over_none, write_eq_putBy, putBy_of_new hnew, ih,
        List.append_assoc, List.singleton_append]
      simpa using hkeys

theorem merge_empty_left (hupper : upper.Apart) : merge [] upper = upper :=
  merge_eq_append hupper

/-- Merging changes nothing if every value that is laid over another one leaves it as it is. -/
theorem merge_eq_self
    (hsame : ∀ entry ∈ upper, ∃ value, find? below entry.1 = some value ∧
      entry.2.over (some value) = value) :
    merge below upper = below := by
  induction upper with
  | nil => exact merge_nil below
  | cons entry rest ih =>
      obtain ⟨key, value⟩ := entry
      obtain ⟨⟨old, hold, hover⟩, hrest⟩ := List.forall_mem_cons.mp hsame
      rw [merge_cons, hold, hover, write_of_find? hold]
      exact ih hrest

end Entries

namespace Value

/-- A mapping is merged with the entries of what is there. -/
theorem map_over {upper : Entries} (hupper : upper.Apart) (current : Option Value) :
    (map upper).over current = map (Entries.merge (current.elim [] entries) upper) := by
  rcases current with _ | lower
  · rw [over_none, Option.elim_none, Entries.merge_empty_left hupper]
  · cases lower with
    | map below => exact over_map below upper
    | _ => simp [Value.over, entries, Entries.merge_empty_left hupper]

/-- A leaf of a value that was laid over another one is a leaf of this value, or one of the
other value where this value leaves the way open. -/
theorem hasLeaf_over {value leaf : Value} {path : List Key} (hvalue : value.Distinct)
    (current : Option Value) :
    (value.over current).HasLeaf path leaf ↔
      value.HasLeaf path leaf ∨
        (∃ lower, current = some lower ∧ lower.HasLeaf path leaf) ∧ value.LeavesOpen path := by
  induction path generalizing value current with
  | nil =>
      by_cases hmap : value.isMap
      · obtain ⟨upper, rfl⟩ := exists_of_isMap hmap
        rw [map_over hvalue.of_map.1]
        simp [not_hasLeaf_map_nil, not_leavesOpen_nil]
      · rw [over_of_ne_map (ne_map_of_not_isMap hmap)]
        simp [not_leavesOpen_nil]
  | cons key path ih =>
      by_cases hmap : value.isMap
      · obtain ⟨upper, rfl⟩ := exists_of_isMap hmap
        obtain ⟨hkeys, hinside⟩ := hvalue.of_map
        have hlower : (∃ lower, current = some lower ∧ lower.HasLeaf (key :: path) leaf) ↔
            ∃ child, Entries.find? (current.elim [] entries) key = some child ∧
              child.HasLeaf path leaf := by
          cases current <;> simp [hasLeaf_cons]
        rw [map_over hkeys, hlower, hasLeaf_cons, hasLeaf_cons, leavesOpen_cons, entries, entries,
          hkeys.find?_merge]
        cases hupper : Entries.find? upper key with
        | none => simp [isMap]
        | some child =>
            obtain ⟨own, hmem⟩ := Entries.mem_of_find? hupper
            have hchild : child.Distinct := hinside _ hmem
            simp [isMap, ih hchild]
      · rw [over_of_ne_map (ne_map_of_not_isMap hmap)]
        simp [leavesOpen_cons, hmap]

/-- Laying a value over what it was laid over already changes nothing. -/
theorem over_over {value : Value} (hvalue : value.Distinct) (current : Option Value) :
    value.over (some (value.over current)) = value.over current := by
  induction hvalue generalizing current with
  | @map upper hkeys _ ih =>
      rw [map_over hkeys current, map_over hkeys, Option.elim_some, entries]
      congr 1
      apply Entries.merge_eq_self
      intro entry hentry
      refine ⟨entry.2.over (Entries.find? (current.elim [] entries) entry.1), ?_, ih entry hentry _⟩
      rw [hkeys.find?_merge, hkeys.find?_of_mem hentry, Option.map_some, Option.some_or]
  | list => rw [Value.over, Value.over]
  | plain hmap => rw [over_of_ne_map hmap, over_of_ne_map hmap]

end Value

namespace Entries

/-- Merging overrides leaf by leaf. -/
theorem merge_overrides_leaves {override : Entries} (hoverride : (Value.map override).Distinct)
    (base : Entries) :
    (∀ path leaf, (Value.map override).HasLeaf path leaf →
      (Value.map (merge base override)).HasLeaf path leaf) ∧
    (∀ path leaf, (Value.map base).HasLeaf path leaf → (Value.map override).LeavesOpen path →
      (Value.map (merge base override)).HasLeaf path leaf) ∧
    (∀ path leaf, (Value.map (merge base override)).HasLeaf path leaf →
      (Value.map override).HasLeaf path leaf ∨
        (Value.map base).HasLeaf path leaf ∧ (Value.map override).LeavesOpen path) ∧
    merge [] override = override ∧
    merge base [] = base ∧
    merge (merge base override) override = merge base override := by
  have hleaf (path : List Key) (leaf : Value) :
      (Value.map (merge base override)).HasLeaf path leaf ↔
        (Value.map override).HasLeaf path leaf ∨
          (Value.map base).HasLeaf path leaf ∧ (Value.map override).LeavesOpen path := by
    rw [← Value.over_map, Value.hasLeaf_over hoverride]
    simp
  refine ⟨?_, ?_, ?_, merge_empty_left hoverride.of_map.1, merge_nil base, ?_⟩
  · intro path leaf hupper
    exact (hleaf path leaf).mpr (.inl hupper)
  · intro path leaf hlower hopen
    exact (hleaf path leaf).mpr (.inr ⟨hlower, hopen⟩)
  · intro path leaf
    exact (hleaf path leaf).mp
  · have hagain := Value.over_over hoverride (some (.map base))
    rwa [Value.over_map, Value.over_map, Value.map.injEq] at hagain

/-- Entries of a section, and a text in the place of a section. -/
def sampleBase : Entries :=
  [(.text "logging", .text "info"),
    (.text "extraction",
      .map [(.text "comment_max_distance", .int 9), (.text "max_file_size_mb", .int 5)])]

def sampleOverride : Entries :=
  [(.text "logging", .map [(.text "level", .text "debug")]),
    (.text "extraction", .map [(.text "comment_max_distance", .int 3)])]

theorem merge_overrides_sample_leaves :
    (Value.map sampleOverride).Distinct ∧
    (Value.map (merge sampleBase sampleOverride)).HasLeaf
      [.text "extraction", .text "comment_max_distance"] (.int 3) ∧
    (Value.map (merge sampleBase sampleOverride)).HasLeaf
      [.text "extraction", .text "max_file_size_mb"] (.int 5) ∧
    ¬ (Value.map (merge sampleBase sampleOverride)).HasLeaf [.text "logging"] (.text "info") ∧
    merge (merge sampleBase sampleOverride) sampleOverride = merge sampleBase sampleOverride := by
  have hdistinct : (Value.map sampleOverride).Distinct := by
    refine .map (by unfold Apart; decide) ?_
    simp only [sampleOverride, List.forall_mem_cons]
    refine ⟨.map (by unfold Apart; decide) ?_, .map (by unfold Apart; decide) ?_, by simp⟩
    all_goals
      rw [List.forall_mem_singleton]
      exact .plain (by simp) (by simp)
  obtain ⟨hupper, hlower, hother, _, _, hagain⟩ := merge_overrides_leaves hdistinct sampleBase
  refine ⟨hdistinct, hupper _ _ ⟨rfl, by decide⟩, hlower _ _ ⟨rfl, by decide⟩ ?_, ?_, hagain⟩
  · refine Value.leavesOpen_cons.mpr ⟨rfl, ?_⟩
    intro child hchild
    obtain rfl := Option.some.inj hchild
    refine Value.leavesOpen_cons.mpr ⟨rfl, ?_⟩
    intro child hchild
    exact absurd hchild.symm (Option.some_ne_none child)
  · intro hleaf
    rcases hother _ _ hleaf with hleaf | ⟨_, hopen, _⟩
    · cases hleaf.1
    · contradiction

end Entries
end SourceOutline
