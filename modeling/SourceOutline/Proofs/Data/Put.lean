import Mathlib.Data.List.Nodup

/-!
# Writing a value under its key

Many lists of entries are written in the same way: a value goes to the place that its key
has, or else to the end.  They differ in which keys count as the same one.  Writing keeps
the keys apart, and it changes what is found under the key and nothing else.
-/

namespace SourceOutline

variable {κ ν : Type}

theorem lookup_cons_eq [DecidableEq κ] (entry : κ × ν) (rest : List (κ × ν)) (key : κ) :
    List.lookup key (entry :: rest) =
      if key = entry.1 then some entry.2 else rest.lookup key := by
  obtain ⟨own, value⟩ := entry
  by_cases hkey : key = own
  · simp [hkey]
  · simp [List.lookup_cons, beq_false_of_ne hkey, hkey]

/-- Writes a value at the place that the same key has, or else at the end. -/
def putBy (same : κ → κ → Bool) (entries : List (κ × ν)) (key : κ) (value : ν) :
    List (κ × ν) :=
  match entries with
  | [] => [(key, value)]
  | entry :: rest =>
      if same entry.1 key then (entry.1, value) :: rest
      else entry :: putBy same rest key value

variable {same : κ → κ → Bool} {entries : List (κ × ν)} {key : κ}

theorem putBy_of_new (hnew : ∀ entry ∈ entries, ¬ same entry.1 key) (value : ν) :
    putBy same entries key value = entries ++ [(key, value)] := by
  induction entries with
  | nil => rfl
  | cons entry rest ih =>
      obtain ⟨hentry, hrest⟩ := List.forall_mem_cons.mp hnew
      rw [putBy, if_neg hentry, ih hrest, List.cons_append]

/-- A key that is there keeps its place and its spelling. -/
theorem map_fst_putBy_of_old {old : κ × ν} (hold : old ∈ entries) (hsame : same old.1 key)
    (value : ν) : (putBy same entries key value).map Prod.fst = entries.map Prod.fst := by
  induction entries with
  | nil => contradiction
  | cons entry rest ih =>
      rw [putBy]
      by_cases hentry : same entry.1 key
      · rw [if_pos hentry, List.map_cons, List.map_cons]
      · have hrest : old ∈ rest := by
          rcases List.mem_cons.mp hold with rfl | hrest
          · exact absurd hsame hentry
          · exact hrest
        rw [if_neg hentry, List.map_cons, List.map_cons, ih hrest]

theorem mem_map_fst_putBy {own : κ} {value : ν}
    (hown : own ∈ (putBy same entries key value).map Prod.fst) :
    own ∈ entries.map Prod.fst ∨ own = key := by
  by_cases hold : ∃ old ∈ entries, same old.1 key
  · obtain ⟨old, hold, hsame⟩ := hold
    rw [map_fst_putBy_of_old hold hsame] at hown
    exact .inl hown
  · have hnew : ∀ entry ∈ entries, ¬ same entry.1 key := by simpa using hold
    rw [putBy_of_new hnew, List.map_append, List.mem_append] at hown
    exact hown.imp_right List.mem_singleton.mp

theorem pairwise_putBy
    (hentries : (entries.map Prod.fst).Pairwise fun first second => ¬ same first second)
    (key : κ) (value : ν) :
    ((putBy same entries key value).map Prod.fst).Pairwise
      fun first second => ¬ same first second := by
  by_cases hold : ∃ old ∈ entries, same old.1 key
  · obtain ⟨old, hold, hsame⟩ := hold
    rwa [map_fst_putBy_of_old hold hsame]
  · have hnew : ∀ entry ∈ entries, ¬ same entry.1 key := by simpa using hold
    rw [putBy_of_new hnew, List.map_append, List.map_singleton, List.pairwise_append]
    refine ⟨hentries, List.pairwise_singleton _ _, ?_⟩
    intro other hother _ hkey
    obtain ⟨entry, hentry, rfl⟩ := List.mem_map.mp hother
    obtain rfl := List.mem_singleton.mp hkey
    exact hnew entry hentry

theorem mem_putBy {value : ν} {entry : κ × ν} (hentry : entry ∈ putBy same entries key value) :
    entry ∈ entries ∨ entry.2 = value ∧ (entry.1 = key ∨ same entry.1 key) := by
  induction entries with
  | nil =>
      obtain rfl := List.mem_singleton.mp hentry
      exact .inr ⟨rfl, .inl rfl⟩
  | cons first rest ih =>
      rw [putBy] at hentry
      by_cases hfirst : same first.1 key
      · rw [if_pos hfirst, List.mem_cons] at hentry
        rcases hentry with rfl | hrest
        · exact .inr ⟨rfl, .inr hfirst⟩
        · exact .inl (List.mem_cons_of_mem first hrest)
      · rw [if_neg hfirst, List.mem_cons] at hentry
        rcases hentry with rfl | hrest
        · exact .inl List.mem_cons_self
        · exact (ih hrest).imp_left (List.mem_cons_of_mem first)

theorem nodup_putBy
    (hrefl : ∀ own, same own own) (hentries : (entries.map Prod.fst).Nodup) (key : κ)
    (value : ν) : ((putBy same entries key value).map Prod.fst).Nodup := by
  by_cases hold : ∃ old ∈ entries, same old.1 key
  · obtain ⟨old, hold, hsame⟩ := hold
    rwa [map_fst_putBy_of_old hold hsame]
  · have hnew : ∀ entry ∈ entries, ¬ same entry.1 key := by simpa using hold
    rw [putBy_of_new hnew, List.map_append, List.map_singleton, List.nodup_append]
    refine ⟨hentries, List.nodup_singleton key, ?_⟩
    rintro own hown _ hkey rfl
    obtain ⟨entry, hentry, rfl⟩ := List.mem_map.mp hown
    obtain rfl := List.mem_singleton.mp hkey
    exact hnew entry hentry (hrefl entry.1)

/-! ## Keys that are the same if they mean the same -/

variable {μ : Type} [DecidableEq μ]

/-- The value under the key that means the same. -/
def lookupBy (meaning : κ → μ) (entries : List (κ × ν)) (key : κ) : Option ν :=
  (entries.find? fun entry => meaning entry.1 = meaning key).map Prod.snd

theorem lookupBy_cons (meaning : κ → μ) (entry : κ × ν) (rest : List (κ × ν)) (key : κ) :
    lookupBy meaning (entry :: rest) key =
      if meaning key = meaning entry.1 then some entry.2 else lookupBy meaning rest key := by
  unfold lookupBy
  rw [List.find?_cons]
  by_cases hkey : meaning key = meaning entry.1
  · simp [hkey]
  · simp [hkey, Ne.symm hkey]

/-- The last value put under a key is the one found under it. -/
theorem lookupBy_putBy (meaning : κ → μ) (entries : List (κ × ν)) (key other : κ) (value : ν) :
    lookupBy meaning (putBy (fun a b => meaning a = meaning b) entries key value) other =
      if meaning other = meaning key then some value else lookupBy meaning entries other := by
  induction entries with
  | nil => rw [putBy, lookupBy_cons]
  | cons entry rest ih =>
      rw [putBy]
      by_cases hentry : meaning entry.1 = meaning key
      · rw [if_pos (decide_eq_true hentry), lookupBy_cons, lookupBy_cons, hentry]
        by_cases hother : meaning other = meaning key
        · simp [hother]
        · simp [hother]
      · rw [if_neg (by simpa using hentry), lookupBy_cons, lookupBy_cons, ih]
        by_cases hother : meaning other = meaning entry.1
        · simp [hother, hentry]
        · simp [hother]

/-- Writing what stands under a key already changes nothing. -/
theorem putBy_of_lookupBy {meaning : κ → μ} {entries : List (κ × ν)} {key : κ} {value : ν}
    (hfound : lookupBy meaning entries key = some value) :
    putBy (fun a b => meaning a = meaning b) entries key value = entries := by
  induction entries with
  | nil => simp [lookupBy] at hfound
  | cons entry rest ih =>
      rw [lookupBy_cons] at hfound
      rw [putBy]
      by_cases hentry : meaning key = meaning entry.1
      · rw [if_pos hentry, Option.some.injEq] at hfound
        rw [if_pos (decide_eq_true hentry.symm), ← hfound]
      · rw [if_neg hentry] at hfound
        rw [if_neg (by simpa using Ne.symm hentry), ih hfound]

/-! ## Keys that are the same only if they are equal -/

theorem lookup_eq_lookupBy [DecidableEq κ] (entries : List (κ × ν)) (key : κ) :
    entries.lookup key = lookupBy id entries key := by
  induction entries with
  | nil => rfl
  | cons entry rest ih => rw [lookup_cons_eq, lookupBy_cons, ih, id, id]

theorem lookup_putBy [DecidableEq κ] (entries : List (κ × ν)) (key other : κ) (value : ν) :
    (putBy (· == ·) entries key value).lookup other =
      if other = key then some value else entries.lookup other := by
  rw [lookup_eq_lookupBy, lookup_eq_lookupBy]
  exact lookupBy_putBy id entries key other value

end SourceOutline
