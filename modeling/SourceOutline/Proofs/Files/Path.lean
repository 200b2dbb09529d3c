import SourceOutline.Files.Scan
import Mathlib.Data.List.Basic

/-!
# Paths and their texts

A path that was read from a text, with file names appended to it, can be read again
from the text it shows.  Its names are neither empty nor a dot and hold no slash, so
splitting the text at its slashes gives them back; the slashes of the root give empty
names in front of them, which are dropped.

The characters of the text are those of the names, slashes and dots.  So a file system
that can be asked about the names can be asked about the path.
-/

namespace SourceOutline

namespace Text

theorem splitFrom_eq_splitOn (separator : Char) (part text : List Char) :
    splitFrom separator part text =
      (text.splitOn separator).modifyHead (part.reverse ++ ·) := by
  unfold List.splitOn
  induction text generalizing part with
  | nil => simp [splitFrom]
  | cons c rest ih =>
      rw [splitFrom, List.splitOnP_cons_eq_if_modifyHead]
      split
      next hsame =>
        rw [ih, if_pos (by simp [hsame])]
        cases List.splitOnP (· == separator) rest <;> simp
      next hother =>
        simp only [beq_iff_eq, if_neg hother, ih, List.modifyHead_modifyHead]
        congr 1
        funext front
        simp

theorem split_eq_splitOn (separator : Char) (text : List Char) :
    split separator text = text.splitOn separator := by
  rw [split, splitFrom_eq_splitOn]
  cases text.splitOn separator <;> simp

/-- The parts of a text are made of its characters, separators apart. -/
theorem mem_of_mem_splitFrom
    {separator : Char} {part text : List Char} {found : List Char}
    (hfound : found ∈ splitFrom separator part text) {c : Char} (hc : c ∈ found) :
    c ∈ part ∨ c ∈ text ∧ c ≠ separator := by
  induction text generalizing part with
  | nil =>
      rw [splitFrom, List.mem_singleton] at hfound
      rw [hfound, List.mem_reverse] at hc
      exact .inl hc
  | cons b rest ih =>
      rw [splitFrom] at hfound
      split at hfound
      next hsame =>
        rcases List.mem_cons.mp hfound with rfl | hrest
        · exact .inl (List.mem_reverse.mp hc)
        · rcases ih hrest with hnil | ⟨hmem, hother⟩
          · contradiction
          · exact .inr ⟨List.mem_cons_of_mem b hmem, hother⟩
      next hother =>
        rcases ih hfound with hpart | ⟨hmem, hne⟩
        · rcases List.mem_cons.mp hpart with rfl | hpart
          · exact .inr ⟨List.mem_cons_self, hother⟩
          · exact .inl hpart
        · exact .inr ⟨List.mem_cons_of_mem b hmem, hne⟩

theorem mem_of_mem_intercalate
    {separator c : Char} {parts : List (List Char)} (hc : c ∈ [separator].intercalate parts) :
    c = separator ∨ ∃ part ∈ parts, c ∈ part := by
  induction parts with
  | nil => simp at hc
  | cons part rest ih =>
      cases rest with
      | nil => exact .inr ⟨part, by simp, by simpa using hc⟩
      | cons next rest =>
          rw [List.intercalate_cons_cons, List.mem_append, List.mem_append,
            List.mem_singleton] at hc
          rcases hc with (hpart | rfl) | hrest
          · exact .inr ⟨part, List.mem_cons_self, hpart⟩
          · exact .inl rfl
          · rcases ih hrest with hsame | ⟨other, hother, hmem⟩
            · exact .inl hsame
            · exact .inr ⟨other, List.mem_cons_of_mem part hother, hmem⟩

end Text

namespace Path

/-- A name that a path keeps. -/
def IsName (name : String) : Prop :=
  name ≠ "" ∧ name ≠ "." ∧ '/' ∉ name.toList

instance : DecidablePred IsName :=
  fun name => inferInstanceAs (Decidable (name ≠ "" ∧ name ≠ "." ∧ '/' ∉ name.toList))

/-- A path as it comes from a text, perhaps with further names. -/
structure Proper (path : Path) : Prop where
  root : path.root = "" ∨ path.root = "/" ∨ path.root = "//"
  names : ∀ name ∈ path.names, IsName name

theorem proper_ofString (text : String) : (ofString text).Proper := by
  constructor
  · unfold ofString rootOf
    simp only
    split <;> simp
  · intro name hname
    obtain ⟨hmem, hkept⟩ := List.mem_filter.mp hname
    obtain ⟨part, hpart, rfl⟩ := List.mem_map.mp hmem
    rw [Bool.and_eq_true, bne_iff_ne, bne_iff_ne] at hkept
    refine ⟨hkept.1, hkept.2, ?_⟩
    rw [String.toList_ofList]
    intro hslash
    rcases Text.mem_of_mem_splitFrom hpart hslash with hnil | ⟨_, hother⟩
    · contradiction
    · exact hother rfl

theorem Proper.append
    {path : Path} (hpath : path.Proper) {names : List String} (hnames : ∀ name ∈ names, IsName name) :
    (path.append names).Proper := by
  refine ⟨hpath.root, ?_⟩
  intro name hname
  rcases List.mem_append.mp hname with hold | hnew
  · exact hpath.names name hold
  · exact hnames name hnew

theorem toList_text_of_ne {path : Path} (hpath : ¬ (path.root = "" ∧ path.names = [])) :
    path.text.toList =
      path.root.toList ++ ['/'].intercalate (path.names.map String.toList) := by
  unfold text
  rw [if_neg (by simpa using hpath), String.toList_append, String.toList_intercalate]
  rfl

/-- The names of a path do not begin with a slash. -/
theorem head?_intercalate_ne
    {names : List String} (hnames : ∀ name ∈ names, IsName name) :
    (['/'].intercalate (names.map String.toList)).head? ≠ some '/' := by
  cases names with
  | nil => simp
  | cons name rest =>
      obtain ⟨hempty, _, hslash⟩ := hnames name List.mem_cons_self
      obtain ⟨c, others, hname⟩ :=
        List.exists_cons_of_ne_nil (mt String.toList_eq_nil_iff.mp hempty)
      rw [hname] at hslash
      have hc : c ≠ '/' := fun heq => hslash (heq ▸ List.mem_cons_self)
      cases rest with
      | nil => simpa [hname] using hc
      | cons next rest => simpa [hname] using hc

theorem rootOf_append
    {root : String} (hroot : root = "" ∨ root = "/" ∨ root = "//") {back : List Char}
    (hback : back.head? ≠ some '/') : rootOf (root.toList ++ back) = root := by
  have hstop : back.takeWhile (· == '/') = [] := by
    cases back with
    | nil => rfl
    | cons c rest =>
        have hc : c ≠ '/' := by simpa using hback
        simp [hc]
  unfold rootOf
  rcases hroot with rfl | rfl | rfl <;> simp [hstop]

theorem split_root
    {root : String} (hroot : root = "" ∨ root = "/" ∨ root = "//") (back : List Char) :
    ∃ empties, (∀ part ∈ empties, part = []) ∧
      Text.split '/' (root.toList ++ back) = empties ++ Text.split '/' back := by
  rcases hroot with rfl | rfl | rfl
  · exact ⟨[], by simp, rfl⟩
  · exact ⟨[[]], by simp, by simp [Text.split, Text.splitFrom]⟩
  · exact ⟨[[], []], by simp, by simp [Text.split, Text.splitFrom]⟩

theorem filter_split_names
    {names : List String} (hnames : ∀ name ∈ names, IsName name) :
    (((Text.split '/' (['/'].intercalate (names.map String.toList))).map String.ofList).filter
        fun part => part != "" && part != ".") = names := by
  cases hsome : names with
  | nil => simp [Text.split, Text.splitFrom]
  | cons first rest =>
      rw [← hsome]
      have hparts : ∀ part ∈ names.map String.toList, '/' ∉ part := by
        intro part hpart
        obtain ⟨name, hname, rfl⟩ := List.mem_map.mp hpart
        exact (hnames name hname).2.2
      have hback : (names.map String.toList).map String.ofList = names := by
        simp [Function.comp_def]
      rw [Text.split_eq_splitOn, List.splitOn_intercalate '/' hparts (by simp [hsome]), hback,
        List.filter_eq_self]
      intro name hname
      obtain ⟨hempty, hdot, _⟩ := hnames name hname
      simp [hempty, hdot]

theorem ofString_text {path : Path} (hpath : path.Proper) : ofString path.text = path := by
  by_cases hhere : path.root = "" ∧ path.names = []
  · obtain ⟨root, names⟩ := path
    obtain ⟨rfl, rfl⟩ := hhere
    decide
  · have htext := toList_text_of_ne hhere
    obtain ⟨empties, hempties, hsplit⟩ :=
      split_root hpath.root (['/'].intercalate (path.names.map String.toList))
    have hdropped :
        ((empties.map String.ofList).filter fun part => part != "" && part != ".") = [] := by
      rw [List.filter_eq_nil_iff]
      intro part hpart
      obtain ⟨chars, hchars, rfl⟩ := List.mem_map.mp hpart
      simp [hempties chars hchars]
    unfold ofString
    rw [htext, rootOf_append hpath.root (head?_intercalate_ne hpath.names), hsplit]
    simp only [List.map_append, List.filter_append, hdropped, List.nil_append,
      filter_split_names hpath.names]

/-- A path that comes from a text shows its names, slashes and at most one dot. -/
theorem mem_text
    {path : Path} (hpath : path.Proper) {c : Char} (hc : c ∈ path.text.toList) :
    c = '.' ∨ c = '/' ∨ ∃ name ∈ path.names, c ∈ name.toList := by
  by_cases hhere : path.root = "" ∧ path.names = []
  · obtain ⟨root, names⟩ := path
    obtain ⟨rfl, rfl⟩ := hhere
    exact .inl (List.mem_singleton.mp hc)
  · right
    rw [toList_text_of_ne hhere, List.mem_append] at hc
    rcases hc with hroot | hbody
    · left
      rcases hpath.root with h | h | h
      · simp [h] at hroot
      · simpa [h] using hroot
      · simpa [h] using hroot
    · rcases Text.mem_of_mem_intercalate hbody with hslash | ⟨part, hpart, hmem⟩
      · exact .inl hslash
      · obtain ⟨name, hname, rfl⟩ := List.mem_map.mp hpart
        exact .inr ⟨name, hname, hmem⟩

theorem mem_of_mem_names_ofString
    {text name : String} (hname : name ∈ (ofString text).names) {c : Char}
    (hc : c ∈ name.toList) : c ∈ text.toList := by
  obtain ⟨part, hpart, rfl⟩ := List.mem_map.mp (List.mem_filter.mp hname).1
  rw [String.toList_ofList] at hc
  rcases Text.mem_of_mem_splitFrom hpart hc with hnil | ⟨hmem, _⟩
  · contradiction
  · exact hmem

end Path

namespace FileStore

variable {store : FileStore}

/-- A text is the path of something if it can be encoded and has no null character. -/
theorem pathFault?_eq_none {text : String} :
    store.pathFault? text = none ↔
      ∀ c ∈ text.toList, (c.toNat < 128 ∨ store.encodes c) ∧ c ≠ '\x00' := by
  have hwrite :
      store.canWrite text = true ↔ ∀ c ∈ text.toList, c.toNat < 128 ∨ store.encodes c := by
    simp [canWrite]
  have hnull : hasNull text = false ↔ ∀ c ∈ text.toList, c ≠ '\x00' := by
    rw [hasNull, List.contains_eq_mem, decide_eq_false_iff_not]
    exact ⟨fun h c hc heq => h (heq ▸ hc), fun h hmem => h _ hmem rfl⟩
  unfold pathFault?
  cases hcan : store.canWrite text with
  | false =>
      have hnot : ¬ ∀ c ∈ text.toList, (c.toNat < 128 ∨ store.encodes c) ∧ c ≠ '\x00' := by
        intro hall
        have hcannot := hwrite.mpr fun c hc => (hall c hc).1
        rw [hcan] at hcannot
        contradiction
      simp [hnot]
  | true =>
      cases hhas : hasNull text with
      | false =>
          have hall := hwrite.mp hcan
          have hnone := hnull.mp hhas
          exact iff_of_true (by simp) fun c hc => ⟨hall c hc, hnone c hc⟩
      | true =>
          refine iff_of_false (by simp) fun hall => ?_
          have hfalse := hnull.mpr fun c hc => (hall c hc).2
          rw [hhas] at hfalse
          contradiction

/-- If the names of a path can be asked for, so can the path. -/
theorem pathFault?_text
    {path : Path} (hpath : path.Proper)
    (hnames : ∀ name ∈ path.names, store.pathFault? name = none) :
    store.pathFault? path.text = none := by
  rw [pathFault?_eq_none]
  intro c hc
  rcases Path.mem_text hpath hc with rfl | rfl | ⟨name, hname, hmem⟩
  · exact ⟨.inl (by decide), by decide⟩
  · exact ⟨.inl (by decide), by decide⟩
  · exact pathFault?_eq_none.mp (hnames name hname) c hmem

theorem pathFault?_of_mem_names
    {text : String} (htext : store.pathFault? text = none) :
    ∀ name ∈ (Path.ofString text).names, store.pathFault? name = none := by
  intro name hname
  rw [pathFault?_eq_none] at htext ⊢
  exact fun c hc => htext c (Path.mem_of_mem_names_ofString hname hc)

end FileStore
end SourceOutline
