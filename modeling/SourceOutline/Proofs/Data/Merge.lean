import SourceOutline.Data.Value
import SourceOutline.Proofs.Data.Put

/-!
# Looking up what was merged

A mapping is looked up by its keys.  Putting a value changes what is found under its
key and nothing else, and laying a mapping over another one is putting its values one
by one.  So what is found under a key afterwards is the upper value laid over the lower
one, or the lower one where the upper mapping has no such key.  This asks of the upper
mapping that it has each key once; of the lower one nothing is asked.
-/

namespace SourceOutline

theorem Key.text_meaning_eq_iff {key : Key} {s : String} :
    (Key.text s).meaning = key.meaning ↔ .text s = key := by
  cases key <;> simp [Key.meaning, Key.number?]

theorem Key.same_iff {a b : Key} : a.same b ↔ a.meaning = b.meaning := by
  simp [Key.same]

theorem Key.same_self (key : Key) : key.same key :=
  Key.same_iff.mpr rfl

namespace Entries

def Keyed (entries : Entries) : Prop :=
  (entries.map Prod.fst).Nodup

theorem put_eq_putBy (entries : Entries) (key : Key) (value : Value) :
    put entries key value = putBy (· == ·) entries key value := by
  induction entries with
  | nil => rfl
  | cons entry rest ih => simp only [put, putBy, beq_iff_eq, ih]

@[simp] theorem get?_nil (key : Key) : get? [] key = none := rfl

theorem get?_cons (entry : Key × Value) (rest : Entries) (key : Key) :
    get? (entry :: rest) key = if key = entry.1 then some entry.2 else get? rest key :=
  lookup_cons_eq entry rest key

theorem get?_put (entries : Entries) (key other : Key) (value : Value) :
    get? (put entries key value) other =
      if other = key then some value else get? entries other := by
  rw [put_eq_putBy]
  exact lookup_putBy entries key other value

theorem get?_eq_none_iff {entries : Entries} {key : Key} :
    get? entries key = none ↔ key ∉ entries.map Prod.fst := by
  induction entries with
  | nil => simp
  | cons entry rest ih =>
      rw [get?_cons]
      by_cases hkey : key = entry.1
      · simp [hkey]
      · simp [hkey, ih]

theorem mem_of_get? {entries : Entries} {key : Key} {value : Value}
    (hfound : get? entries key = some value) : (key, value) ∈ entries := by
  induction entries with
  | nil => simp at hfound
  | cons entry rest ih =>
      rw [get?_cons] at hfound
      by_cases hkey : key = entry.1
      · rw [if_pos hkey, Option.some.injEq] at hfound
        simp [hkey, ← hfound]
      · rw [if_neg hkey] at hfound
        exact List.mem_cons_of_mem entry (ih hfound)

theorem get?_of_mem {entries : Entries} (hkeyed : entries.Keyed) {entry : Key × Value}
    (hentry : entry ∈ entries) : get? entries entry.1 = some entry.2 := by
  induction entries with
  | nil => contradiction
  | cons first rest ih =>
      obtain ⟨hfirst, hrest⟩ := List.nodup_cons.mp hkeyed
      rw [get?_cons]
      rcases List.mem_cons.mp hentry with rfl | hmem
      · exact if_pos rfl
      · have hother : entry.1 ≠ first.1 := by
          intro hsame
          exact hfirst (hsame ▸ List.mem_map_of_mem hmem)
        rw [if_neg hother]
        exact ih hrest hmem

theorem keyed_put {entries : Entries} (hkeyed : entries.Keyed) (key : Key) (value : Value) :
    (put entries key value).Keyed := by
  rw [put_eq_putBy]
  exact nodup_putBy (fun own => beq_self_eq_true own) hkeyed key value

/-- Putting values under new keys one by one is writing them behind the others. -/
theorem foldl_put_eq_append {entries others : Entries} (hkeyed : (entries ++ others).Keyed) :
    others.foldl (fun out entry => put out entry.1 entry.2) entries = entries ++ others := by
  induction others generalizing entries with
  | nil => simp
  | cons entry others ih =>
      have hnew : ∀ other ∈ entries, ¬ other.1 == entry.1 := by
        unfold Keyed at hkeyed
        rw [List.map_append, List.nodup_append] at hkeyed
        intro other hother hsame
        exact hkeyed.2.2 _ (List.mem_map_of_mem hother) entry.1 (by simp) (beq_iff_eq.mp hsame)
      rw [List.foldl_cons, put_eq_putBy, putBy_of_new hnew, ih, List.append_assoc,
        List.singleton_append]
      simpa using hkeyed

/-! ## Keys that mean the same -/

theorem write_eq_putBy (entries : Entries) (key : Key) (value : Value) :
    write entries key value = putBy Key.same entries key value := by
  induction entries with
  | nil => rfl
  | cons entry rest ih => rw [write, putBy, ih]

@[simp] theorem find?_nil (key : Key) : find? [] key = none := rfl

theorem find?_cons (entry : Key × Value) (rest : Entries) (key : Key) :
    find? (entry :: rest) key =
      if key.meaning = entry.1.meaning then some entry.2 else find? rest key :=
  lookupBy_cons Key.meaning entry rest key

/-- Writing decides the value of the keys that mean the same and of no others. -/
theorem find?_write (entries : Entries) (key other : Key) (value : Value) :
    find? (write entries key value) other =
      if other.meaning = key.meaning then some value else find? entries other := by
  rw [write_eq_putBy]
  exact lookupBy_putBy Key.meaning entries key other value

theorem find?_congr {key other : Key} (hsame : key.meaning = other.meaning) (entries : Entries) :
    find? entries key = find? entries other := by
  simp only [find?, Key.same, hsame]

theorem write_of_find? {entries : Entries} {key : Key} {value : Value}
    (hfound : find? entries key = some value) : write entries key value = entries := by
  rw [write_eq_putBy]
  exact putBy_of_lookupBy hfound

theorem find?_eq_none_iff {entries : Entries} {key : Key} :
    find? entries key = none ↔ ∀ entry ∈ entries, key.meaning ≠ entry.1.meaning := by
  induction entries with
  | nil => simp
  | cons entry rest ih =>
      rw [find?_cons, List.forall_mem_cons, ← ih]
      by_cases hkey : key.meaning = entry.1.meaning
      · simp [hkey]
      · simp [hkey]

theorem mem_of_find? {entries : Entries} {key : Key} {value : Value}
    (hfound : find? entries key = some value) : ∃ own, (own, value) ∈ entries := by
  obtain ⟨⟨own, _⟩, hentry, rfl⟩ := Option.map_eq_some_iff.mp hfound
  exact ⟨own, List.mem_of_find?_eq_some hentry⟩

/-- A text means nothing but itself. -/
theorem find?_text (entries : Entries) (s : String) :
    find? entries (.text s) = get? entries (.text s) := by
  induction entries with
  | nil => rfl
  | cons entry rest ih =>
      rw [find?_cons, get?_cons, ih]
      simp only [Key.text_meaning_eq_iff]

theorem keyed_write {entries : Entries} (hkeyed : entries.Keyed) (key : Key) (value : Value) :
    (write entries key value).Keyed := by
  rw [write_eq_putBy]
  exact nodup_putBy Key.same_self hkeyed key value

/-! ## Merging -/

theorem merge_nil (below : Entries) : merge below [] = below := by
  rw [merge]

theorem merge_cons (below : Entries) (key : Key) (value : Value) (rest : Entries) :
    merge below ((key, value) :: rest) =
      merge (write below key (value.over (find? below key))) rest := by
  rw [merge]

/-- What is found after merging, under a key that the upper mapping has at most once. -/
theorem find?_merge_of_once {upper : Entries} {key : Key}
    (honce : upper.Pairwise fun first second =>
      key.meaning = first.1.meaning → key.meaning ≠ second.1.meaning)
    (below : Entries) :
    find? (merge below upper) key =
      ((find? upper key).map (Value.over (find? below key))).or (find? below key) := by
  induction upper generalizing below with
  | nil => simp [merge_nil]
  | cons entry rest ih =>
      obtain ⟨own, value⟩ := entry
      obtain ⟨hown, hrest⟩ := List.pairwise_cons.mp honce
      rw [merge_cons, ih hrest, find?_write, find?_cons]
      by_cases hkey : key.meaning = own.meaning
      · -- The key does not come again, so its value stays as it was written.
        have hnone : find? rest key = none :=
          find?_eq_none_iff.mpr fun other hother => hown other hother hkey
        simp [hnone, hkey, find?_congr hkey below]
      · simp [hkey]

/-- A merged mapping has the upper value laid over the lower one at each text key. -/
theorem get?_merge {upper : Entries} (hupper : Keyed upper) (below : Entries) (s : String) :
    get? (merge below upper) (.text s) =
      ((get? upper (.text s)).map (Value.over (get? below (.text s)))).or
        (get? below (.text s)) := by
  rw [← find?_text, ← find?_text, ← find?_text]
  apply find?_merge_of_once
  refine (List.pairwise_map.mp hupper).imp ?_
  intro first second hne hfirst hsecond
  rw [Key.text_meaning_eq_iff] at hfirst hsecond
  exact hne (hfirst.symm.trans hsecond)

theorem keyed_merge {below : Entries} (hbelow : below.Keyed) (upper : Entries) :
    Keyed (merge below upper) := by
  induction upper generalizing below with
  | nil => rwa [merge_nil]
  | cons entry rest ih =>
      rw [merge_cons]
      exact ih (keyed_write hbelow _ _)

/-- Each key of a merged mapping is written as one of the two mappings has it. -/
theorem mem_map_fst_merge {below upper : Entries} {key : Key}
    (hkey : key ∈ (merge below upper).map Prod.fst) :
    key ∈ below.map Prod.fst ∨ key ∈ upper.map Prod.fst := by
  induction upper generalizing below with
  | nil =>
      rw [merge_nil] at hkey
      exact .inl hkey
  | cons entry rest ih =>
      obtain ⟨own, value⟩ := entry
      rw [merge_cons] at hkey
      rw [List.map_cons, List.mem_cons]
      rcases ih hkey with hwritten | hrest
      · rw [write_eq_putBy] at hwritten
        exact (mem_map_fst_putBy hwritten).imp_right .inl
      · exact .inr (.inr hrest)

end Entries

theorem Value.over_none (value : Value) : value.over none = value := by
  cases value with
  | map entries => simp [Value.over]
  | _ => rw [Value.over]

/-- Only a mapping is laid over what is there; every other value takes its place. -/
theorem Value.over_of_ne_map
    {value : Value} (hvalue : ∀ entries, value ≠ .map entries) (current : Option Value) :
    value.over current = value := by
  cases value with
  | map entries => exact absurd rfl (hvalue entries)
  | _ => rw [Value.over]

theorem Value.over_map (below upper : Entries) :
    (Value.map upper).over (some (.map below)) = .map (Entries.merge below upper) := by
  rw [Value.over]

end SourceOutline
