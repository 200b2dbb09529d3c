import SourceOutline.Proofs.Dependency.Form
import SourceOutline.Proofs.Text.Lines
import Mathlib.Order.Lattice.Nat

/-!
# The place of a declaration

The places at which a form for a name stands belong to the text and the name.  A search
goes through the text from left to right with the character before it at hand, and so it
finds the first of these places that does not lie before its start; the start decides
nothing else.

For a function the search begins where its line begins.  A form that stands on this line
is not before that place, and the first one found is not behind that form, so it stands
on the line as well.
-/

namespace SourceOutline
namespace Form

/-! ## The search -/

theorem not_stands_nil (name before : List Char) : ¬ Stands name before [] := by
  rintro (⟨_, _, _, _, _, htext, _⟩ | ⟨_, _, htext, _⟩ | ⟨_, _, _, _, _, htext, _⟩ |
    ⟨_, _, _, _, _, htext, _⟩ | ⟨_, _, _, htext, _⟩ | ⟨_, _, _, _, _, _, _, _, htext, _⟩) <;>
    simp at htext

theorem standsAt_append_iff (name before rest : List Char) :
    StandsAt name (before ++ rest) before.length ↔ Stands name before rest := by
  unfold StandsAt
  rw [List.take_left, List.drop_left]

theorem lt_length_of_standsAt
    {name text : List Char} {place : Nat} (hstands : StandsAt name text place) :
    place < text.length := by
  by_contra hle
  unfold StandsAt at hstands
  rw [List.drop_eq_nil_of_le (not_lt.mp hle)] at hstands
  exact not_stands_nil name _ hstands

/-- The search knows the character before it, so it sees at every place what the form
asks for. -/
theorem findFrom_eq_some_iff (name before rest : List Char) (place : Nat) :
    findFrom name before.getLast? before.length rest = some place ↔
      IsLeast {other | before.length ≤ other ∧ StandsAt name (before ++ rest) other} place := by
  induction rest generalizing before with
  | nil =>
      simp only [findFrom, reduceCtorEq, false_iff]
      rintro ⟨⟨hle, hstands⟩, _⟩
      have hlt := lt_length_of_standsAt hstands
      rw [List.append_nil] at hlt
      omega
  | cons c rest ih =>
      rw [findFrom]
      have hhere := standsAt_append_iff name before (c :: rest)
      rw [← stands_iff] at hhere
      by_cases hstands : stands name before.getLast? (c :: rest)
      · rw [if_pos hstands, Option.some.injEq]
        have hleast :
            IsLeast {other | before.length ≤ other ∧ StandsAt name (before ++ c :: rest) other}
              before.length :=
          ⟨⟨le_rfl, hhere.mpr hstands⟩, fun _ hother => hother.1⟩
        constructor
        · rintro rfl
          exact hleast
        · intro hplace
          exact hleast.unique hplace
      · have hnext := ih (before ++ [c])
        rw [List.getLast?_concat, List.length_append, List.length_singleton, List.append_assoc,
          List.singleton_append] at hnext
        rw [if_neg hstands, hnext]
        -- The place that is left behind is none of those that count.
        have hsame (other : Nat) :
            before.length + 1 ≤ other ∧ StandsAt name (before ++ c :: rest) other ↔
              before.length ≤ other ∧ StandsAt name (before ++ c :: rest) other := by
          constructor
          · rintro ⟨hlt, hother⟩
            exact ⟨by omega, hother⟩
          · rintro ⟨hle, hother⟩
            have hne : other ≠ before.length := by
              rintro rfl
              exact hstands (hhere.mp hother)
            exact ⟨by omega, hother⟩
        simp only [hsame]

/-- The place that is found is the first one that qualifies. -/
theorem find_eq_some_iff (name text : List Char) (start place : Nat) :
    find name text start = some place ↔
      IsLeast {other | start ≤ other ∧ StandsAt name text other} place := by
  by_cases hstart : start ≤ text.length
  · have hbefore : (text.take start).getLast? = if start = 0 then none else text[start - 1]? := by
      rw [List.getLast?_take]
      by_cases hzero : start = 0
      · rw [if_pos hzero, if_pos hzero]
      · rw [if_neg hzero, if_neg hzero, List.getElem?_eq_getElem (by omega)]
        rfl
    have hsearch := findFrom_eq_some_iff name (text.take start) (text.drop start) place
    rw [List.take_append_drop, List.length_take_of_le hstart, hbefore] at hsearch
    exact hsearch
  · have hbehind : text.length ≤ start := by omega
    simp only [find, List.drop_eq_nil_of_le hbehind, findFrom, reduceCtorEq, false_iff]
    rintro ⟨⟨hle, hstands⟩, _⟩
    have hlt := lt_length_of_standsAt hstands
    omega

theorem find_eq_none_iff (name text : List Char) (start : Nat) :
    find name text start = none ↔ ∀ place, start ≤ place → ¬ StandsAt name text place := by
  constructor
  · intro hnone place hle hstands
    have hleast :
        IsLeast {other | start ≤ other ∧ StandsAt name text other}
          (sInf {other | start ≤ other ∧ StandsAt name text other}) :=
      isLeast_csInf ⟨place, hle, hstands⟩
    rw [← find_eq_some_iff, hnone] at hleast
    contradiction
  · intro hnever
    cases hfound : find name text start with
    | none => rfl
    | some place =>
        obtain ⟨⟨hle, hstands⟩, _⟩ := (find_eq_some_iff name text start place).mp hfound
        exact absurd hstands (hnever place hle)

/-- A search that begins later, but not behind what was found, finds the same place. -/
theorem find_eq_of_le
    {name text : List Char} {start place : Nat} (hfound : find name text start = some place)
    {later : Nat} (hlater : start ≤ later) (hbefore : later ≤ place) :
    find name text later = some place := by
  rw [find_eq_some_iff] at hfound ⊢
  obtain ⟨⟨_, hstands⟩, hleast⟩ := hfound
  refine ⟨⟨hbefore, hstands⟩, ?_⟩
  rintro other ⟨hle, hother⟩
  exact hleast ⟨hlater.trans hle, hother⟩

end Form

/-! ## The lines of a text -/

namespace Text

def lineAt (text : List Char) (place : Nat) : Nat :=
  (text.take place).count '\n' + 1

/-- A line of a text and the place of its first character. -/
structure BeginsLine (text : List Char) (line start : Nat) : Prop where
  le : start ≤ text.length
  behind : start = 0 ∨ text[start - 1]? = some '\n'
  number : lineAt text start = line

/-- The line of a text that a number stands for: a number below the first line for the
first, one above the last line for the last. -/
def nearestLine (text : List Char) (line : Int) : Nat :=
  (max 1 (min line (text.count '\n' + 1))).toNat

theorem lineAt_mono (text : List Char) {place later : Nat} (hle : place ≤ later) :
    lineAt text place ≤ lineAt text later := by
  unfold lineAt
  have hcount := (List.take_sublist_take_left (l := text) hle).count_le '\n'
  omega

theorem lineAt_le (text : List Char) (place : Nat) : lineAt text place ≤ text.count '\n' + 1 := by
  unfold lineAt
  have hcount := (List.take_sublist place text).count_le '\n'
  omega

theorem nearestLine_of_lineAt (text : List Char) (place : Nat) :
    nearestLine text (lineAt text place) = lineAt text place := by
  have hle := lineAt_le text place
  have hpos : 0 < lineAt text place := Nat.succ_pos _
  unfold nearestLine
  omega

theorem exists_beginsLine_lineAt
    (text : List Char) {place : Nat} (hplace : place ≤ text.length) :
    ∃ start ≤ place, BeginsLine text (lineAt text place) start := by
  induction place with
  | zero => exact ⟨0, le_rfl, Nat.zero_le _, .inl rfl, rfl⟩
  | succ place ih =>
      by_cases hnewline : text[place]? = some '\n'
      · exact ⟨place + 1, le_rfl, hplace, .inr hnewline, rfl⟩
      · obtain ⟨start, hle, hline⟩ := ih (by omega)
        have hsame : lineAt text (place + 1) = lineAt text place := by
          unfold lineAt
          rw [List.take_add_one, List.count_append]
          have hnone : (text[place]?.toList).count '\n' = 0 := by
            rw [List.count_eq_zero, Option.mem_toList]
            exact hnewline
          omega
        rw [hsame]
        exact ⟨start, Nat.le_succ_of_le hle, hline⟩

theorem lineAt_cons_succ (c : Char) (text : List Char) (place : Nat) :
    lineAt (c :: text) (place + 1) = lineAt text place + if c = '\n' then 1 else 0 := by
  unfold lineAt
  rw [List.take_succ_cons, List.count_cons]
  simp only [beq_iff_eq]
  omega

/-- No line is passed over. -/
theorem exists_lineAt (text : List Char) {line : Nat} (hline : line ≤ text.count '\n') :
    ∃ place ≤ text.length, lineAt text place = line + 1 := by
  induction text generalizing line with
  | nil =>
      obtain rfl := Nat.le_zero.mp hline
      exact ⟨0, le_rfl, rfl⟩
  | cons c text ih =>
      cases line with
      | zero => exact ⟨0, Nat.zero_le _, rfl⟩
      | succ line =>
          rw [List.count_cons] at hline
          by_cases hc : c = '\n'
          · rw [if_pos (beq_iff_eq.mpr hc)] at hline
            obtain ⟨place, hplace, hnumber⟩ := ih (Nat.le_of_succ_le_succ hline)
            exact ⟨place + 1, Nat.succ_le_succ hplace, by rw [lineAt_cons_succ, if_pos hc, hnumber]⟩
          · rw [if_neg (mt beq_iff_eq.mp hc)] at hline
            obtain ⟨place, hplace, hnumber⟩ := ih hline
            exact ⟨place + 1, Nat.succ_le_succ hplace, by rw [lineAt_cons_succ, if_neg hc, hnumber]⟩

theorem exists_beginsLine (text : List Char) (line : Int) :
    ∃ start, BeginsLine text (nearestLine text line) start := by
  have hline : nearestLine text line - 1 ≤ text.count '\n' := by
    unfold nearestLine
    omega
  obtain ⟨place, hplace, hnumber⟩ := exists_lineAt text hline
  obtain ⟨start, _, hstart⟩ := exists_beginsLine_lineAt text hplace
  have hnearest : nearestLine text line - 1 + 1 = nearestLine text line := by
    unfold nearestLine
    omega
  rw [hnumber, hnearest] at hstart
  exact ⟨start, hstart⟩

namespace BeginsLine

variable {text : List Char} {line start : Nat}

theorem lineStarts_getElem? (hline : BeginsLine text line start) :
    (Dependency.lineStarts text)[line - 1]? = some start := by
  obtain ⟨hle, hbehind, rfl⟩ := hline
  have hstart := Dependency.lineStarts_getElem? (take_eq_of_behind hbehind) (text.drop start)
  rwa [List.take_append_drop, List.length_take_of_le hle] at hstart

theorem unique
    (hline : BeginsLine text line start) {other : Nat} (hother : BeginsLine text line other) :
    start = other := by
  have hsame := hline.lineStarts_getElem?.symm.trans hother.lineStarts_getElem?
  exact Option.some.inj hsame

end BeginsLine
end Text

/-! ## The declaration of a function -/

namespace Dependency

/-- A line that is out of range counts as the nearest line. -/
theorem lineStart_eq_iff (text : List Char) (line : Int) (start : Nat) :
    lineStart (lineStarts text) line = start ↔
      Text.BeginsLine text (Text.nearestLine text line) start := by
  have hlength : (lineStarts text).length = text.count '\n' + 1 := by
    rw [lineStarts_eq, List.length_cons, List.length_idxsOf]
  have hindex :
      min (line - 1).toNat ((lineStarts text).length - 1) = Text.nearestLine text line - 1 := by
    rw [hlength]
    unfold Text.nearestLine
    omega
  obtain ⟨first, hfirst⟩ := Text.exists_beginsLine text line
  have hstart : lineStart (lineStarts text) line = first := by
    rw [lineStart, hindex, hfirst.lineStarts_getElem?, Option.getD_some]
  rw [hstart]
  constructor
  · rintro rfl
    exact hfirst
  · exact hfirst.unique

/-- The place at which a function is declared: the first one at which its name is found
from its line on, or else the first one of the text. -/
def DeclaredAt (text : List Char) (function : FunctionRecord) (place : Nat) : Prop :=
  ∃ start, Text.BeginsLine text (Text.nearestLine text function.line) start ∧
    (Form.find function.name.toList text start = some place ∨
      Form.find function.name.toList text start = none ∧
        Form.find function.name.toList text 0 = some place)

/-- A function is declared at the first place from its line on, or else at the first of all. -/
theorem declarationOf?_eq_some_iff (text : List Char) (function : FunctionRecord) (place : Nat) :
    declarationOf? text (lineStarts text) function = some place ↔
      DeclaredAt text function place := by
  unfold DeclaredAt
  simp only [← lineStart_eq_iff, exists_eq_left', declarationOf?]
  cases Form.find function.name.toList text (lineStart (lineStarts text) function.line) with
  | none => simp
  | some found => simp

/-- A form that stands on the line of a function keeps the search there. -/
theorem declarationOf?_lineAt
    (text : List Char) (function : FunctionRecord) {standing : Nat}
    (hstands : Form.StandsAt function.name.toList text standing)
    (hline : (Text.lineAt text standing : Int) = function.line) :
    ∃ place, declarationOf? text (lineStarts text) function = some place ∧
      (Text.lineAt text place : Int) = function.line := by
  have hinside := (Form.lt_length_of_standsAt hstands).le
  obtain ⟨start, hle, hbegins⟩ := Text.exists_beginsLine_lineAt text hinside
  have hnearest : Text.nearestLine text function.line = Text.lineAt text standing := by
    rw [← hline, Text.nearestLine_of_lineAt]
  cases hfound : Form.find function.name.toList text start with
  | none =>
      have hnever := (Form.find_eq_none_iff _ text start).mp hfound
      exact absurd hstands (hnever standing hle)
  | some place =>
      refine ⟨place, ?_, ?_⟩
      · rw [declarationOf?_eq_some_iff]
        refine ⟨start, ?_, .inl hfound⟩
        rwa [hnearest]
      · obtain ⟨⟨hafter, _⟩, hleast⟩ := (Form.find_eq_some_iff _ text start place).mp hfound
        have hbefore : place ≤ standing := hleast ⟨hle, hstands⟩
        have hlow := Text.lineAt_mono text hafter
        have hhigh := Text.lineAt_mono text hbefore
        rw [hbegins.number] at hlow
        omega

end Dependency

namespace Form

/-- The places of a name in a text are fixed, and a search finds the first of them from its
start on.  So it may begin anywhere up to what it finds, and the place chosen for a
function lies on the function's line if a form for its name stands there. -/
theorem find_isLeast (name text : List Char) :
    (∀ start place, find name text start = some place ↔
      IsLeast {other | start ≤ other ∧ StandsAt name text other} place) ∧
    (∀ start, find name text start = none ↔
      ∀ place, start ≤ place → ¬ StandsAt name text place) ∧
    (∀ start later place, find name text start = some place → start ≤ later → later ≤ place →
      find name text later = some place) ∧
    (∀ function : FunctionRecord, function.name.toList = name → ∀ standing,
      StandsAt name text standing → (Text.lineAt text standing : Int) = function.line →
        ∃ place,
          Dependency.declarationOf? text (Dependency.lineStarts text) function = some place ∧
            (Text.lineAt text place : Int) = function.line) := by
  refine ⟨find_eq_some_iff name text, find_eq_none_iff name text, ?_, ?_⟩
  · intro start later place hfound hlater hbefore
    exact find_eq_of_le hfound hlater hbefore
  · rintro function rfl standing hstands hline
    exact Dependency.declarationOf?_lineAt text function hstands hline

/-- A method is found on its line behind a function of the same name. -/
theorem find_isLeast_method :
    let text := "function f() {}\n  f() {}".toList
    let name := "f".toList
    let method : FunctionRecord := { id := 1, name := "f", line := 2 }
    find name text 0 = some 0 ∧ find name text 1 = some 16 ∧ find name text 9 = some 16 ∧
      IsLeast {other | 1 ≤ other ∧ StandsAt name text other} 16 ∧
      (∀ place, 17 ≤ place → ¬ StandsAt name text place) ∧
      ∃ place,
        Dependency.declarationOf? text (Dependency.lineStarts text) method = some place ∧
          (Text.lineAt text place : Int) = 2 := by
  intro text name method
  obtain ⟨hsome, hnone, hlater, hline⟩ := find_isLeast name text
  have hfirst : find name text 0 = some 0 := by decide +kernel
  have hsecond : find name text 1 = some 16 := by decide +kernel
  have hlast : find name text 17 = none := by decide +kernel
  have hleast := (hsome 1 16).mp hsecond
  have hown : (Text.lineAt text 16 : Int) = method.line := by decide +kernel
  exact ⟨hfirst, hsecond, hlater 1 9 16 hsecond (by decide) (by decide), hleast,
    (hnone 17).mp hlast, hline method rfl 16 hleast.1.2 hown⟩

end Form
end SourceOutline
