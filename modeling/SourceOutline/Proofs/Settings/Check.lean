import SourceOutline.Settings.Library
import Mathlib.Data.List.Forall2

/-!
# What checks come to

A check gives a value, tells issues or breaks off.  For every way to build a check from
others there are two lemmas here.  The first one tells exactly when the result breaks off,
and that it never tells an empty list of issues.  The second one tells the form in which the
check gives its values, and that a value in this form is accepted unchanged when it is written
down as plain data.
-/

namespace SourceOutline

/-- Plain data of the kind that is asked for are taken as they are. -/
structure Library.KeepsPlain (library : Library) : Prop where
  integer : ∀ n, library.integer (.int n) = .ok n
  boolean : ∀ b, library.boolean (.bool b) = .ok b
  string : ∀ text, library.string (.text text) = .ok text
  literal : ∀ words, ∀ word ∈ words, library.literal words (.text word) = .ok word
  items : ∀ values, library.items (.list values) = .ok values
  entries : ∀ name entries, library.entries name (.map entries) = .ok entries

namespace Check

variable {α β : Type} {library : Library}

/-! ## Breaking off -/

/-- A check breaks off exactly in a given case, and else gives a value or tells an issue. -/
structure BreaksIff (check : Check α) (broken : Prop) : Prop where
  told : check ≠ .issues []
  breaks : check = .noHome ↔ broken

theorem BreaksIff.congr
    {check : Check α} {broken other : Prop} (hcheck : check.BreaksIff broken)
    (hsame : broken ↔ other) : check.BreaksIff other :=
  ⟨hcheck.told, hcheck.breaks.trans hsame⟩

theorem breaksIff_ok (value : α) : (ok value).BreaksIff False := by
  constructor <;> simp

theorem breaksIff_noHome : (noHome : Check α).BreaksIff True := by
  constructor <;> simp

theorem breaksIff_fail (kind : IssueKind) (input : Value) :
    (fail kind input : Check α).BreaksIff False := by
  constructor <;> simp [fail]

theorem BreaksIff.map
    {check : Check α} {broken : Prop} (hcheck : check.BreaksIff broken) (f : α → β) :
    (Check.map f check).BreaksIff broken := by
  obtain ⟨htold, hbreaks⟩ := hcheck
  cases check <;> constructor <;> simp_all [Check.map]

theorem BreaksIff.within
    {check : Check α} {broken : Prop} (hcheck : check.BreaksIff broken) (step : String) :
    (Check.within step check).BreaksIff broken := by
  obtain ⟨htold, hbreaks⟩ := hcheck
  cases check <;> constructor <;> simp_all [Check.within]

theorem BreaksIff.both
    {first : Check (α → β)} {second : Check α} {broken other : Prop}
    (hfirst : first.BreaksIff broken) (hsecond : second.BreaksIff other) :
    (Check.both first second).BreaksIff (broken ∨ other) := by
  obtain ⟨htold, hbreaks⟩ := hfirst
  obtain ⟨htold', hbreaks'⟩ := hsecond
  cases first <;> cases second <;> constructor <;> simp_all [Check.both]

theorem BreaksIff.bind
    {check : Check α} {next : α → Check β} {broken : Prop} {other : α → Prop}
    (hcheck : check.BreaksIff broken) (hnext : ∀ value, (next value).BreaksIff (other value)) :
    (check.bind next).BreaksIff (broken ∨ ∃ value, check = .ok value ∧ other value) := by
  obtain ⟨htold, hbreaks⟩ := hcheck
  cases check with
  | ok value => exact (hnext value).congr (by simp [← hbreaks])
  | issues list => constructor <;> simp_all [Check.bind]
  | noHome => constructor <;> simp_all [Check.bind]

theorem BreaksIff.bind_never
    {check : Check α} {next : α → Check β} (hcheck : check.BreaksIff False)
    (hnext : ∀ value, (next value).BreaksIff False) : (check.bind next).BreaksIff False :=
  (hcheck.bind hnext).congr (by simp)

theorem breaksIff_itemsFrom
    {check : Value → Check α} {broken : Value → Prop}
    (hcheck : ∀ value, (check value).BreaksIff (broken value)) (index : Nat)
    (values : List Value) :
    (itemsFrom check index values).BreaksIff (∃ item ∈ values, broken item) := by
  induction values generalizing index with
  | nil => exact (breaksIff_ok []).congr (by simp)
  | cons item rest ih =>
      have hitem := ((hcheck item).within (toString index)).map List.cons
      exact (hitem.both (ih (index + 1))).congr (by simp)

theorem breaksIff_ofExcept (input : Value) (result : Except IssueKind α) :
    (ofExcept input result).BreaksIff False := by
  cases result with
  | ok value => exact breaksIff_ok value
  | error kind => exact breaksIff_fail kind input

theorem ofExcept_eq_ok {input : Value} {result : Except IssueKind α} {value : α} :
    ofExcept input result = .ok value ↔ result = .ok value := by
  cases result <;> simp [ofExcept, fail]

theorem breaksIff_items (library : Library)
    {check : Value → Check α} {broken : Value → Prop}
    (hcheck : ∀ value, (check value).BreaksIff (broken value)) (value : Value) :
    (items library check value).BreaksIff
      (∃ values, library.items value = .ok values ∧ ∃ item ∈ values, broken item) := by
  have hitems := (breaksIff_ofExcept value (library.items value)).bind fun values =>
    breaksIff_itemsFrom hcheck 0 values
  exact hitems.congr (by simp only [ofExcept_eq_ok, false_or])

theorem breaksIff_optional
    {check : Value → Check α} (hcheck : ∀ value, (check value).BreaksIff False) (value : Value) :
    (optional check value).BreaksIff False := by
  unfold optional
  split
  next => exact breaksIff_ok none
  next => exact (hcheck value).map some

/-- A default never breaks off. -/
theorem breaksIff_field
    {check : Value → Check α} {broken : Value → Prop}
    (hcheck : ∀ value, (check value).BreaksIff (broken value)) (entries : Entries)
    (name : String) (default : α) :
    (field entries name default check).BreaksIff
      (∃ value, Entries.get? entries (.text name) = some value ∧ broken value) := by
  unfold field
  cases Entries.get? entries (.text name) with
  | none => exact (breaksIff_ok default).congr (by simp)
  | some value => exact ((hcheck value).within name).congr (by simp)

theorem breaksIff_model (library : Library)
    {check : Entries → Check α} {broken : Entries → Prop}
    (hcheck : ∀ entries, (check entries).BreaksIff (broken entries)) (name : String)
    (value : Value) :
    (model library name check value).BreaksIff
      (∃ entries, library.entries name value = .ok entries ∧ broken entries) := by
  have hmodel := (breaksIff_ofExcept value (library.entries name value)).bind hcheck
  exact hmodel.congr (by simp only [ofExcept_eq_ok, false_or])

theorem breaksIff_choice (library : Library) (choices : List (String × α)) (value : Value) :
    (choice library choices value).BreaksIff False := by
  refine (breaksIff_ofExcept value _).bind_never fun word => ?_
  cases choices.lookup word with
  | none => exact breaksIff_fail _ _
  | some found => exact breaksIff_ok found

/-! ## Acceptance -/

theorem map_eq_ok {f : α → β} {check : Check α} {result : β} :
    map f check = .ok result ↔ ∃ value, check = .ok value ∧ f value = result := by
  cases check <;> simp [map]

theorem bind_eq_ok {check : Check α} {next : α → Check β} {result : β} :
    check.bind next = .ok result ↔ ∃ value, check = .ok value ∧ next value = .ok result := by
  cases check <;> simp [bind]

theorem both_eq_ok {first : Check (α → β)} {second : Check α} {result : β} :
    both first second = .ok result ↔
      ∃ f value, first = .ok f ∧ second = .ok value ∧ f value = result := by
  cases first <;> cases second <;> simp [both]

theorem within_eq_ok {step : String} {check : Check α} {result : α} :
    within step check = .ok result ↔ check = .ok result := by
  cases check <;> simp [within]

theorem model_eq_ok {name : String} {check : Entries → Check α} {value : Value} {result : α} :
    model library name check value = .ok result ↔
      ∃ entries, library.entries name value = .ok entries ∧ check entries = .ok result := by
  simp only [model, bind_eq_ok, ofExcept_eq_ok]

theorem model_map (hplain : library.KeepsPlain) (name : String) (check : Entries → Check α)
    (entries : Entries) : model library name check (.map entries) = check entries := by
  rw [model, hplain.entries]
  rfl

theorem items_eq_ok {check : Value → Check α} {value : Value} {results : List α} :
    items library check value = .ok results ↔
      ∃ values, library.items value = .ok values ∧ itemsFrom check 0 values = .ok results := by
  simp only [items, bind_eq_ok, ofExcept_eq_ok]

theorem field_of_get?
    {check : Value → Check α} {entries : Entries} {name : String} {value : Value} {result : α}
    (hfound : Entries.get? entries (.text name) = some value)
    (haccepted : check value = .ok result) (default : α) :
    field entries name default check = .ok result := by
  unfold field
  rw [hfound]
  exact within_eq_ok.mpr haccepted

/-! ## Checking once more -/

/-- A check brings values into a form and leaves that form alone: what it gives is in the
form, and what is in the form it gives back when that is written down. -/
structure Settles (check : Value → Check α) (write : α → Value) (form : α → Prop) : Prop where
  reached : ∀ {value result}, check value = .ok result → form result
  kept : ∀ {result}, form result → check (write result) = .ok result

section Settles

variable {check : Value → Check α} {write : α → Value} {form : α → Prop}

/-- What was accepted once is accepted again as it is written down. -/
theorem Settles.again
    (hcheck : Settles check write form) {value : Value} {result : α}
    (haccepted : check value = .ok result) : check (write result) = .ok result :=
  hcheck.kept (hcheck.reached haccepted)

theorem Settles.congr
    {other : α → Prop} (hcheck : Settles check write form)
    (hsame : ∀ result, form result ↔ other result) : Settles check write other where
  reached haccepted := (hsame _).mp (hcheck.reached haccepted)
  kept hform := hcheck.kept ((hsame _).mpr hform)

theorem settles_boolean (hplain : library.KeepsPlain) :
    Settles (boolean library) .bool fun _ => True where
  reached _ := trivial
  kept _ := ofExcept_eq_ok.mpr (hplain.boolean _)

theorem settles_string (hplain : library.KeepsPlain) :
    Settles (string library) .text fun _ => True where
  reached _ := trivial
  kept _ := ofExcept_eq_ok.mpr (hplain.string _)

theorem settles_choice (hplain : library.KeepsPlain)
    {choices : List (String × α)} {name : α → String}
    (hnames : ∀ result, choices.lookup (name result) = some result) :
    Settles (choice library choices) (fun result => .text (name result)) fun _ => True where
  reached _ := trivial
  kept {result} _ := by
    have hlisted : name result ∈ choices.map Prod.fst := by
      by_contra hmissing
      have hnone : choices.lookup (name result) = none := by
        rw [List.lookup_eq_none_iff]
        intro entry hentry
        have hother : name result ≠ entry.1 := by
          intro hsame
          exact hmissing (List.mem_map.mpr ⟨entry, hentry, hsame.symm⟩)
        simpa using hother
      rw [hnames] at hnone
      contradiction
    unfold choice
    simp only [bind_eq_ok, ofExcept_eq_ok]
    exact ⟨name result, hplain.literal _ _ hlisted, by rw [hnames, Option.elim_some]⟩

theorem Settles.optional
    (hcheck : Settles check write form) (hnull : ∀ result, write result ≠ .null) :
    Settles (optional check) (fun result => .ofOption (result.map write))
      fun result => ∀ inner ∈ result, form inner where
  reached {value result} haccepted := by
    intro inner hinner
    obtain rfl := Option.mem_def.mp hinner
    unfold Check.optional at haccepted
    split at haccepted
    next => simp at haccepted
    next =>
      obtain ⟨found, hfound, hsome⟩ := map_eq_ok.mp haccepted
      obtain rfl := Option.some.inj hsome
      exact hcheck.reached hfound
  kept {result} hform := by
    cases result with
    | none => rfl
    | some inner =>
        have hwritten := hcheck.kept (hform inner rfl)
        simp only [Option.map_some, Value.ofOption, Option.getD_some]
        unfold Check.optional
        split
        next hwrite => exact absurd hwrite (hnull inner)
        next => rw [hwritten, map]

theorem Settles.itemsFrom_reached
    (hcheck : Settles check write form) {index : Nat} {values : List Value} {results : List α}
    (haccepted : Check.itemsFrom check index values = .ok results) :
    ∀ result ∈ results, form result := by
  induction values generalizing index results with
  | nil =>
      cases haccepted
      simp
  | cons item rest ih =>
      rw [Check.itemsFrom, both_eq_ok] at haccepted
      obtain ⟨_, others, hmapped, hrest, rfl⟩ := haccepted
      obtain ⟨first, hitem, rfl⟩ := map_eq_ok.mp hmapped
      rw [List.forall_mem_cons]
      exact ⟨hcheck.reached (within_eq_ok.mp hitem), ih hrest⟩

theorem Settles.itemsFrom_kept
    (hcheck : Settles check write form) {results : List α}
    (hform : ∀ result ∈ results, form result) (index : Nat) :
    Check.itemsFrom check index (results.map write) = .ok results := by
  induction results generalizing index with
  | nil => rfl
  | cons first others ih =>
      rw [List.forall_mem_cons] at hform
      rw [List.map_cons, Check.itemsFrom, hcheck.kept hform.1, ih hform.2 (index + 1)]
      rfl

theorem Settles.items (hplain : library.KeepsPlain)
    (hcheck : Settles check write form) :
    Settles (items library check) (fun results => .list (results.map write))
      fun results => ∀ result ∈ results, form result where
  reached haccepted := by
    obtain ⟨values, _, haccepted⟩ := items_eq_ok.mp haccepted
    exact hcheck.itemsFrom_reached haccepted
  kept hform := items_eq_ok.mpr ⟨_, hplain.items _, hcheck.itemsFrom_kept hform 0⟩

theorem settles_texts (hplain : library.KeepsPlain) :
    Settles (items library (string library)) .texts fun _ => True :=
  ((settles_string hplain).items hplain).congr (by simp)

/-- What a field comes to is in the form if the default is. -/
theorem Settles.field_reached
    (hcheck : Settles check write form) {default : α} (hdefault : form default)
    {entries : Entries} {name : String} {result : α}
    (haccepted : field entries name default check = .ok result) : form result := by
  unfold field at haccepted
  cases hfound : Entries.get? entries (.text name) with
  | none =>
      rw [hfound] at haccepted
      cases haccepted
      exact hdefault
  | some value =>
      rw [hfound] at haccepted
      exact hcheck.reached (within_eq_ok.mp haccepted)

theorem Settles.field_kept
    (hcheck : Settles check write form) {entries : Entries} {name : String} {result : α}
    (hform : form result) (hfound : Entries.get? entries (.text name) = some (write result))
    (default : α) : field entries name default check = .ok result :=
  field_of_get? hfound (hcheck.kept hform) default

end Settles

end Check
end SourceOutline
