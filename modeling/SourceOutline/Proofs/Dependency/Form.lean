import SourceOutline.Dependency.Form
import SourceOutline.Proofs.Text.Trim
import Mathlib.Data.List.Induction

/-!
# The forms of a declaration

A form is told as a division of the text that follows a place: its words and signs, the
blanks between them, and the name between its neighbours, which is taken as it is.
What has to stand before the place, or on both sides of the end of a word, is told of
the whole text.  No division mentions where a search begins.

The recognisers of the forms divide the same texts.  Each of them is handed what has to
follow and tries every way to go on, so it accepts a text exactly if some division of it
ends with what follows.
-/

namespace SourceOutline

namespace Form

/-! ## The six forms -/

def Blank (gap : List Char) : Prop :=
  ∀ c ∈ gap, Text.isBlank c

def Gap (gap : List Char) : Prop :=
  gap ≠ [] ∧ Blank gap

def Star (star : List Char) : Prop :=
  star = [] ∨ star = ['*']

def WordEdge (before after : List Char) : Prop :=
  before.getLast?.any Text.isWord ≠ after.head?.any Text.isWord

def LineBegins (before : List Char) : Prop :=
  before = [] ∨ before.getLast? = some '\n'

def NameBegins (before : List Char) : Prop :=
  ∀ c, before.getLast? = some c → ¬ Text.isNameChar c

/-- `function name (`, perhaps with a star. -/
def IsFunction (name text : List Char) : Prop :=
  ∃ gap star inner outer rest : List Char,
    text = "function".toList ++ gap ++ star ++ inner ++ name ++ outer ++ '(' :: rest ∧
      Blank gap ∧ Star star ∧ Blank inner ∧ Blank outer

def IsClass (name before text : List Char) : Prop :=
  ∃ gap rest : List Char, text = "class".toList ++ gap ++ name ++ rest ∧ Gap gap ∧
    WordEdge (before ++ "class".toList ++ gap ++ name) rest

/-- `const name =`, and the same with `let` or `var`. -/
def IsBinding (name text : List Char) : Prop :=
  ∃ keyword ∈ ["const", "let", "var"], ∃ gap outer rest : List Char,
    text = keyword.toList ++ gap ++ name ++ outer ++ '=' :: rest ∧ Gap gap ∧ Blank outer

/-- `async` with blanks behind it, or nothing. -/
def Async (async : List Char) : Prop :=
  async = [] ∨ ∃ gap, async = "async".toList ++ gap ∧ Blank gap

/-- `name = function`, perhaps with `async`. -/
def IsAssignment (name before text : List Char) : Prop :=
  NameBegins before ∧ ∃ gap inner async rest : List Char,
    text = name ++ gap ++ '=' :: inner ++ async ++ "function".toList ++ rest ∧ Blank gap ∧
      Blank inner ∧ Async async ∧
      WordEdge (before ++ name ++ gap ++ '=' :: inner ++ async ++ "function".toList) rest

/-- `def name (`. -/
def IsDefinition (name text : List Char) : Prop :=
  ∃ gap outer rest : List Char,
    text = "def".toList ++ gap ++ name ++ outer ++ '(' :: rest ∧ Gap gap ∧ Blank outer

/-- Modifiers as they are written, each with its blanks. -/
def written (modifiers : List (String × List Char)) : List Char :=
  modifiers.flatMap fun modifier => modifier.1.toList ++ modifier.2

/-- A method at the beginning of a line: modifiers, a star or none, `name (…) … {`. -/
def IsMethod (name before text : List Char) : Prop :=
  LineBegins before ∧ ∃ (indent : List Char) (modifiers : List (String × List Char))
      (star outer params between rest : List Char),
    text = indent ++ written modifiers ++ star ++ name ++ outer ++ '(' :: params ++
      ')' :: between ++ '{' :: rest ∧
      (∀ c ∈ indent, c = ' ' ∨ c = '\t') ∧
      (∀ modifier ∈ modifiers, modifier.1 ∈ modifierWords ∧ Gap modifier.2) ∧
      Star star ∧ Blank outer ∧ ')' ∉ params ∧ '{' ∉ between ∧ ';' ∉ between

/-- One of the forms stands between the two halves of a text. -/
def Stands (name before text : List Char) : Prop :=
  IsFunction name text ∨ IsClass name before text ∨ IsBinding name text ∨
    IsAssignment name before text ∨ IsDefinition name text ∨ IsMethod name before text

/-- A form for `name` stands at a place of a text. -/
def StandsAt (name text : List Char) (place : Nat) : Prop :=
  Stands name (text.take place) (text.drop place)

/-! ## What the parts of a recogniser accept -/

variable {next : List Char → Bool} {text : List Char}

/-- A repetition that is followed by something may end at every place where that begins. -/
theorem many_iff {class_ : Char → Bool} :
    many class_ next text ↔
      ∃ front rest, text = front ++ rest ∧ (∀ c ∈ front, class_ c) ∧ next rest := by
  induction text with
  | nil =>
      simp only [many]
      constructor
      · intro hnext
        exact ⟨[], [], rfl, by simp, hnext⟩
      · rintro ⟨front, rest, hsplit, _, hnext⟩
        obtain ⟨rfl, rfl⟩ := List.append_eq_nil_iff.mp hsplit.symm
        exact hnext
  | cons c text ih =>
      simp only [many, Bool.or_eq_true, Bool.and_eq_true, ih]
      constructor
      · rintro (hnext | ⟨hc, front, rest, rfl, hfront, hnext⟩)
        · exact ⟨[], c :: text, rfl, by simp, hnext⟩
        · exact ⟨c :: front, rest, rfl, List.forall_mem_cons.mpr ⟨hc, hfront⟩, hnext⟩
      · rintro ⟨front, rest, hsplit, hfront, hnext⟩
        cases front with
        | nil => exact .inl (hsplit ▸ hnext)
        | cons d front =>
            obtain ⟨rfl, rfl⟩ := List.cons_eq_cons.mp hsplit
            obtain ⟨hc, hfront⟩ := List.forall_mem_cons.mp hfront
            exact .inr ⟨hc, front, rest, rfl, hfront, hnext⟩

theorem blanks_iff :
    blanks next text ↔ ∃ gap rest, text = gap ++ rest ∧ Blank gap ∧ next rest :=
  many_iff

theorem someBlanks_iff :
    someBlanks next text ↔ ∃ gap rest, text = gap ++ rest ∧ Gap gap ∧ next rest := by
  cases text with
  | nil =>
      simp only [someBlanks, Bool.false_eq_true, false_iff]
      rintro ⟨gap, rest, hsplit, hgap, _⟩
      exact hgap.1 (List.append_eq_nil_iff.mp hsplit.symm).1
  | cons c text =>
      simp only [someBlanks, Bool.and_eq_true, blanks_iff]
      constructor
      · rintro ⟨hc, gap, rest, rfl, hgap, hnext⟩
        exact ⟨c :: gap, rest, rfl, ⟨by simp, List.forall_mem_cons.mpr ⟨hc, hgap⟩⟩, hnext⟩
      · rintro ⟨gap, rest, hsplit, ⟨hsome, hgap⟩, hnext⟩
        cases gap with
        | nil => contradiction
        | cons d gap =>
            obtain ⟨rfl, rfl⟩ := List.cons_eq_cons.mp hsplit
            obtain ⟨hc, hgap⟩ := List.forall_mem_cons.mp hgap
            exact ⟨hc, gap, rest, rfl, hgap, hnext⟩

theorem literal_iff {word : List Char} :
    literal word next text ↔ ∃ rest, text = word ++ rest ∧ next rest := by
  unfold literal
  simp only [Option.any_eq_true, Text.after?_eq_some_iff]

theorem maybe_iff {c : Char} :
    maybe c next text ↔
      ∃ sign rest, text = sign ++ rest ∧ (sign = [] ∨ sign = [c]) ∧ next rest := by
  simp only [maybe, Bool.or_eq_true, literal_iff]
  constructor
  · rintro (hnext | ⟨rest, rfl, hnext⟩)
    · exact ⟨[], text, rfl, .inl rfl, hnext⟩
    · exact ⟨[c], rest, rfl, .inr rfl, hnext⟩
  · rintro ⟨sign, rest, rfl, rfl | rfl, hnext⟩
    · exact .inl hnext
    · exact .inr ⟨rest, rfl, hnext⟩

theorem startsWith_iff {c : Char} : startsWith c text ↔ ∃ rest, text = c :: rest := by
  cases text with
  | nil => simp [startsWith]
  | cons d text => simp [startsWith]

/-! ## Edges of words -/

theorem startsWord_eq (text : List Char) : startsWord text = text.head?.any Text.isWord := by
  cases text <;> rfl

/-- Only the name in front of an edge counts, and the blank in front of a name that is
empty is no part of a word. -/
theorem atWordEdge_iff
    (before : List Char) {gap : List Char} (hgap : Gap gap) (name rest : List Char) :
    atWordEdge name rest ↔ WordEdge (before ++ gap ++ name) rest := by
  unfold atWordEdge WordEdge
  rw [bne_iff_ne, startsWord_eq]
  cases name using List.reverseRecOn with
  | nil =>
      cases gap using List.reverseRecOn with
      | nil => exact absurd rfl hgap.1
      | append_singleton gap last =>
          have hlast : Text.isWord last = false := Text.isWord_of_isBlank (hgap.2 last (by simp))
          simp [hlast]
  | append_singleton name last => simp [← List.append_assoc]

theorem wordEdge_function_iff (before rest : List Char) :
    WordEdge (before ++ "function".toList) rest ↔ startsWord rest = false := by
  have hlast : (before ++ "function".toList).getLast?.any Text.isWord = true := by
    have hword : "function".toList = "functio".toList ++ ['n'] := by decide
    rw [hword, ← List.append_assoc, List.getLast?_concat]
    decide
  unfold WordEdge
  rw [hlast, startsWord_eq]
  cases rest.head?.any Text.isWord <;> simp

/-! ## Modifiers -/

/-- No modifier is the beginning of another, so a text goes on in one way only. -/
theorem afterModifier?_append
    {word : String} (hword : word ∈ modifierWords) (rest : List Char) :
    afterModifier? (word.toList ++ rest) = some rest := by
  simp only [modifierWords, List.mem_cons, List.not_mem_nil, or_false] at hword
  rcases hword with rfl | rfl | rfl | rfl | rfl | rfl | rfl <;> rfl

theorem eq_append_of_afterModifier?
    {rest : List Char} (hafter : afterModifier? text = some rest) :
    ∃ word ∈ modifierWords, text = word.toList ++ rest := by
  obtain ⟨word, hword, hrest⟩ := List.exists_of_findSome?_eq_some hafter
  exact ⟨word, hword, Text.after?_eq_some_iff.mp hrest⟩

theorem trimLeft_written
    {modifiers : List (String × List Char)} (hsome : modifiers ≠ [])
    (hmodifiers : ∀ modifier ∈ modifiers, modifier.1 ∈ modifierWords) (rest : List Char) :
    Text.trimLeft (written modifiers ++ rest) = written modifiers ++ rest := by
  have hletters : ∀ word ∈ modifierWords, word.toList.head?.any Text.isBlank = false ∧
      word.toList ≠ [] := by
    decide
  cases modifiers with
  | nil => contradiction
  | cons first others =>
      -- The text begins with the first letter of a modifier, so there is nothing to trim.
      obtain ⟨hblank, hword⟩ := hletters first.1 (hmodifiers first List.mem_cons_self)
      unfold Text.trimLeft written
      rw [List.flatMap_cons]
      cases hletter : first.1.toList with
      | nil => contradiction
      | cons letter word =>
          rw [hletter] at hblank
          simpa using hblank

theorem trimLeft_append {gap : List Char} (hgap : Blank gap) (rest : List Char) :
    Text.trimLeft (gap ++ rest) = Text.trimLeft rest :=
  List.dropWhile_append_of_pos hgap

/-- Behind a modifier and a blank either what follows stands, at some of the blanks, or
another modifier behind all of them. -/
theorem modifiers_iff_step :
    modifiers next text ↔ next text ∨
      ∃ word ∈ modifierWords, ∃ rest, text = word.toList ++ rest ∧
        (someBlanks next rest ∨
          rest.head?.any Text.isBlank ∧ modifiers next (Text.trimLeft rest)) := by
  rw [modifiers, Bool.or_eq_true]
  apply or_congr_right
  cases hafter : afterModifier? text with
  | none =>
      simp only [Bool.false_eq_true, false_iff]
      rintro ⟨word, hword, rest, rfl, _⟩
      rw [afterModifier?_append hword] at hafter
      contradiction
  | some rest =>
      simp only [Bool.or_eq_true, Bool.and_eq_true]
      constructor
      · intro hrest
        obtain ⟨word, hword, htext⟩ := eq_append_of_afterModifier? hafter
        exact ⟨word, hword, rest, htext, hrest⟩
      · rintro ⟨word, hword, other, rfl, hother⟩
        rw [afterModifier?_append hword, Option.some.injEq] at hafter
        rwa [hafter] at hother

theorem gap_takeWhile {text : List Char} (hblank : text.head?.any Text.isBlank) :
    Gap (text.takeWhile Text.isBlank) := by
  constructor
  · cases text with
    | nil => contradiction
    | cons c text =>
        have hc : Text.isBlank c := hblank
        simp [hc]
  · intro c hc
    exact List.mem_takeWhile_imp hc

/-- Modifiers are read like words: none is the beginning of another. -/
theorem modifiers_iff :
    modifiers next text ↔
      ∃ (words : List (String × List Char)) (rest : List Char), text = written words ++ rest ∧
        (∀ modifier ∈ words, modifier.1 ∈ modifierWords ∧ Gap modifier.2) ∧ next rest := by
  constructor
  · intro haccepted
    induction text using modifiers.induct with
    | case1 text ih =>
        rw [modifiers_iff_step] at haccepted
        rcases haccepted with hnext | ⟨word, hword, rest, rfl, hblanks | ⟨hblank, hothers⟩⟩
        · exact ⟨[], text, rfl, by simp, hnext⟩
        · obtain ⟨gap, after, rfl, hgap, hnext⟩ := someBlanks_iff.mp hblanks
          exact ⟨[(word, gap)], after, by simp [written], by simp [hword, hgap], hnext⟩
        · obtain ⟨words, after, htrim, hwords, hnext⟩ :=
            ih rest (afterModifier?_append hword rest) hothers
          have hgap := gap_takeWhile hblank
          refine ⟨(word, rest.takeWhile Text.isBlank) :: words, after, ?_, ?_, hnext⟩
          · have hrest : rest = rest.takeWhile Text.isBlank ++ Text.trimLeft rest :=
              List.takeWhile_append_dropWhile.symm
            conv_lhs => rw [hrest, htrim]
            simp [written]
          · exact List.forall_mem_cons.mpr ⟨⟨hword, hgap⟩, hwords⟩
  · rintro ⟨words, rest, rfl, hwords, hnext⟩
    induction words with
    | nil => exact modifiers_iff_step.mpr (.inl hnext)
    | cons first others ih =>
        obtain ⟨⟨hword, hgap⟩, hothers⟩ := List.forall_mem_cons.mp hwords
        have hwritten :
            written (first :: others) ++ rest =
              first.1.toList ++ (first.2 ++ (written others ++ rest)) := by
          simp [written]
        refine modifiers_iff_step.mpr (.inr ⟨first.1, hword, _, hwritten, ?_⟩)
        -- Behind the last modifier some of the blanks may belong to what follows, since a
        -- name may begin with blanks.  In front of another modifier all of them are its gap.
        by_cases hlast : others = []
        · subst hlast
          exact .inl (someBlanks_iff.mpr ⟨first.2, rest, rfl, hgap, hnext⟩)
        · have htrim := trimLeft_written hlast (fun modifier hmodifier =>
            (hothers modifier hmodifier).1) rest
          rw [trimLeft_append hgap.2, htrim]
          refine .inr ⟨?_, ih hothers⟩
          cases hfirst : first.2 with
          | nil => exact absurd hfirst hgap.1
          | cons c gap => exact hgap.2 c (by simp [hfirst])

/-! ## Recognising the forms -/

theorem dropWhile_eq_cons_iff
    {α : Type} {p : α → Bool} {xs rest : List α} {x : α} :
    xs.dropWhile p = x :: rest ↔
      ∃ front, xs = front ++ x :: rest ∧ (∀ y ∈ front, p y) ∧ p x = false := by
  constructor
  · intro hdrop
    refine ⟨xs.takeWhile p, ?_, fun y hy => List.mem_takeWhile_imp hy, ?_⟩
    · rw [← hdrop, List.takeWhile_append_dropWhile]
    · have hhead := List.head?_dropWhile_not p xs
      rw [hdrop] at hhead
      simpa using hhead
  · rintro ⟨front, rfl, hfront, hx⟩
    rw [List.dropWhile_append_of_pos hfront, List.dropWhile_cons_of_neg (by simp [hx])]

/-- Behind the parameters of a method a brace must come before any semicolon. -/
theorem methodTail_iff :
    methodTail text ↔ ∃ params between rest : List Char,
      text = params ++ ')' :: between ++ '{' :: rest ∧ ')' ∉ params ∧ '{' ∉ between ∧
        ';' ∉ between := by
  unfold methodTail
  constructor
  · intro htail
    split at htail
    next => contradiction
    next c behind hclosing =>
      obtain ⟨params, rfl, hparams, hc⟩ := dropWhile_eq_cons_iff.mp hclosing
      obtain ⟨rest, hopening⟩ := startsWith_iff.mp htail
      obtain ⟨between, rfl, hbetween, _⟩ := dropWhile_eq_cons_iff.mp hopening
      obtain rfl : c = ')' := by simpa using hc
      refine ⟨params, between, rest, by simp, ?_, ?_, ?_⟩
      · intro hmem
        simpa using hparams _ hmem
      · intro hmem
        simpa using hbetween _ hmem
      · intro hmem
        simpa using hbetween _ hmem
  · rintro ⟨params, between, rest, rfl, hparams, hbrace, hsemicolon⟩
    have hclosing :
        (params ++ ')' :: between ++ '{' :: rest).dropWhile (· != ')') =
          ')' :: (between ++ '{' :: rest) := by
      refine dropWhile_eq_cons_iff.mpr ⟨params, by simp, ?_, by simp⟩
      intro c hc
      simpa using ne_of_mem_of_not_mem hc hparams
    have hopening :
        (between ++ '{' :: rest).dropWhile (fun c => c != '{' && c != ';') = '{' :: rest := by
      refine dropWhile_eq_cons_iff.mpr ⟨between, rfl, ?_, by simp⟩
      intro c hc
      simpa using And.intro (ne_of_mem_of_not_mem hc hbrace) (ne_of_mem_of_not_mem hc hsemicolon)
    rw [hclosing]
    simp only [hopening]
    exact startsWith_iff.mpr ⟨rest, rfl⟩

theorem functionForm_iff {name : List Char} : functionForm name text ↔ IsFunction name text := by
  simp only [functionForm, IsFunction, literal_iff, blanks_iff, maybe_iff, startsWith_iff]
  constructor
  · rintro ⟨_, rfl, gap, _, rfl, hgap, star, _, rfl, hstar, inner, _, rfl, hinner, _, rfl,
      outer, _, rfl, houter, rest, rfl⟩
    exact ⟨gap, star, inner, outer, rest, by simp, hgap, hstar, hinner, houter⟩
  · rintro ⟨gap, star, inner, outer, rest, rfl, hgap, hstar, hinner, houter⟩
    exact ⟨_, by simp, gap, _, rfl, hgap, star, _, rfl, hstar, inner, _, rfl, hinner, _, rfl,
      outer, _, rfl, houter, rest, rfl⟩

theorem classForm_iff {name : List Char} (before : List Char) :
    classForm name text ↔ IsClass name before text := by
  simp only [classForm, IsClass, literal_iff, someBlanks_iff]
  constructor
  · rintro ⟨_, rfl, gap, _, rfl, hgap, rest, rfl, hedge⟩
    rw [atWordEdge_iff (before ++ "class".toList) hgap] at hedge
    exact ⟨gap, rest, by simp, hgap, hedge⟩
  · rintro ⟨gap, rest, rfl, hgap, hedge⟩
    rw [← atWordEdge_iff (before ++ "class".toList) hgap] at hedge
    exact ⟨_, by simp, gap, _, rfl, hgap, rest, rfl, hedge⟩

theorem bindingForm_iff {name : List Char} : bindingForm name text ↔ IsBinding name text := by
  simp only [bindingForm, IsBinding, List.any_eq_true, literal_iff, someBlanks_iff, blanks_iff,
    startsWith_iff]
  constructor
  · rintro ⟨keyword, hkeyword, _, rfl, gap, _, rfl, hgap, _, rfl, outer, _, rfl, houter, rest,
      rfl⟩
    exact ⟨keyword, hkeyword, gap, outer, rest, by simp, hgap, houter⟩
  · rintro ⟨keyword, hkeyword, gap, outer, rest, rfl, hgap, houter⟩
    exact ⟨keyword, hkeyword, _, by simp, gap, _, rfl, hgap, _, rfl, outer, _, rfl, houter, rest,
      rfl⟩

theorem defForm_iff {name : List Char} : defForm name text ↔ IsDefinition name text := by
  simp only [defForm, IsDefinition, literal_iff, someBlanks_iff, blanks_iff, startsWith_iff]
  constructor
  · rintro ⟨_, rfl, gap, _, rfl, hgap, _, rfl, outer, _, rfl, houter, rest, rfl⟩
    exact ⟨gap, outer, rest, by simp, hgap, houter⟩
  · rintro ⟨gap, outer, rest, rfl, hgap, houter⟩
    exact ⟨_, by simp, gap, _, rfl, hgap, _, rfl, outer, _, rfl, houter, rest, rfl⟩

theorem nameMayFollow_iff (before : List Char) :
    nameMayFollow before.getLast? ↔ NameBegins before := by
  unfold nameMayFollow NameBegins
  cases before.getLast? <;> simp

theorem lineBegins_iff (before : List Char) : lineBegins before.getLast? ↔ LineBegins before := by
  unfold lineBegins LineBegins
  cases before using List.reverseRecOn <;> simp

theorem functionWord_iff :
    functionWord text ↔ ∃ async rest : List Char,
      text = async ++ "function".toList ++ rest ∧ Async async ∧ startsWord rest = false := by
  simp only [functionWord, Bool.or_eq_true, literal_iff, blanks_iff, Bool.not_eq_true']
  constructor
  · rintro (⟨rest, rfl, hedge⟩ | ⟨_, rfl, gap, _, rfl, hgap, rest, rfl, hedge⟩)
    · exact ⟨[], rest, rfl, .inl rfl, hedge⟩
    · exact ⟨"async".toList ++ gap, rest, by simp, .inr ⟨gap, rfl, hgap⟩, hedge⟩
  · rintro ⟨async, rest, rfl, rfl | ⟨gap, rfl, hgap⟩, hedge⟩
    · exact .inl ⟨rest, rfl, hedge⟩
    · exact .inr ⟨_, by simp, gap, _, rfl, hgap, rest, rfl, hedge⟩

theorem assignmentForm_iff {name : List Char} (before : List Char) :
    assignmentForm name before.getLast? text ↔ IsAssignment name before text := by
  simp only [assignmentForm, IsAssignment, Bool.and_eq_true, nameMayFollow_iff, literal_iff,
    blanks_iff, functionWord_iff, wordEdge_function_iff]
  apply and_congr_right
  intro _
  constructor
  · rintro ⟨_, rfl, gap, _, rfl, hgap, _, rfl, inner, _, rfl, hinner, async, rest, rfl, hasync,
      hedge⟩
    exact ⟨gap, inner, async, rest, by simp, hgap, hinner, hasync, hedge⟩
  · rintro ⟨gap, inner, async, rest, rfl, hgap, hinner, hasync, hedge⟩
    exact ⟨_, by simp, gap, _, rfl, hgap, _, rfl, inner, _, rfl, hinner, async, rest, rfl, hasync,
      hedge⟩

theorem methodForm_iff {name : List Char} (before : List Char) :
    methodForm name before.getLast? text ↔ IsMethod name before text := by
  simp only [methodForm, IsMethod, Bool.and_eq_true, lineBegins_iff, many_iff, modifiers_iff,
    maybe_iff, literal_iff, blanks_iff, methodTail_iff]
  apply and_congr_right
  intro _
  constructor
  · rintro ⟨indent, _, rfl, hindent, words, _, rfl, hwords, star, _, rfl, hstar, _, rfl, outer, _,
      rfl, houter, _, rfl, params, between, rest, rfl, hparams, hbrace, hsemicolon⟩
    refine ⟨indent, words, star, outer, params, between, rest, by simp, ?_, hwords, hstar, houter,
      hparams, hbrace, hsemicolon⟩
    intro c hc
    simpa using hindent c hc
  · rintro ⟨indent, words, star, outer, params, between, rest, rfl, hindent, hwords, hstar, houter,
      hparams, hbrace, hsemicolon⟩
    refine ⟨indent, _, by simp, ?_, words, _, rfl, hwords, star, _, rfl, hstar, _, rfl, outer, _,
      rfl, houter, _, rfl, params, between, rest, rfl, hparams, hbrace, hsemicolon⟩
    intro c hc
    simpa using hindent c hc

theorem stands_iff (name before text : List Char) :
    stands name before.getLast? text ↔ Stands name before text := by
  simp only [stands, Stands, Bool.or_eq_true, functionForm_iff, classForm_iff before,
    bindingForm_iff, assignmentForm_iff, defForm_iff, methodForm_iff, or_assoc]

end Form
end SourceOutline
