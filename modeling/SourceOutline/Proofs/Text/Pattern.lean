import SourceOutline.Text.Utf8
import Mathlib.Data.List.Basic

/-!
# Patterns of bytes and the search for them

A pattern is matched by a search that tries one way after the other and goes back
when a way leads nowhere.  All the ways are listed here in the order in which the
search tries them: `reached` gives the places at which a match can end, the first
choice first.  A sequence tries every way through its second part for each way
through its first part, so giving back what was taken is going on to the next place
of the list.  The search finds the head of the list, and it fails when the list is
empty.

A text is searched from left to right.  At each place the match found first counts,
and the search goes on at its end.  A match that takes no byte is followed by one
more look at the same place, this time for a match that takes some.
-/

namespace SourceOutline

inductive Pattern where
  /-- Exactly these bytes. -/
  | text (bytes : Bytes)
  /-- One byte that is not among these. -/
  | noneOf (bytes : List UInt8)
  | endOfInput
  | seq (first second : Pattern)
  /-- The first pattern or else the second. -/
  | alt (first second : Pattern)
  /-- Any number of times, an eager one rather often and another rather seldom. -/
  | star (eager : Bool) (body : Pattern)
  /-- Once or else not at all. -/
  | optional (body : Pattern)
  /-- A group: its matches are marked. -/
  | group (body : Pattern)
  deriving DecidableEq, Repr

namespace Pattern

/-- A place of a search: what is still to be read, and whether a group was matched. -/
structure Place where
  offset : Nat
  rest : Bytes
  marked : Bool := false
  deriving DecidableEq, Repr

namespace Place

def pass (place : Place) (count : Nat) : Place :=
  { place with offset := place.offset + count, rest := place.rest.drop count }

def mark (place : Place) : Place :=
  { place with marked := true }

@[simp] theorem pass_zero (place : Place) : place.pass 0 = place := rfl

theorem pass_pass (place : Place) (first second : Nat) :
    (place.pass first).pass second = place.pass (first + second) := by
  simp [pass, Nat.add_assoc]

theorem rest_pass (place : Place) (count : Nat) :
    (place.pass count).rest = place.rest.drop count := rfl

theorem rest_pass_succ
    {place : Place} {count : Nat} {b : UInt8} {rest : Bytes}
    (hrest : (place.pass count).rest = b :: rest) : (place.pass (count + 1)).rest = rest := by
  rw [rest_pass] at hrest ⊢
  rw [← List.drop_drop, hrest]
  rfl

end Place

/-- The places reached by repeating a step.  A step that takes no byte is not
repeated. -/
def repeated (eager : Bool) (once : Place → List Place) (place : Place) : List Place :=
  let further := (once place).flatMap fun next =>
    if _h : next.rest.length < place.rest.length then repeated eager once next else []
  if eager then further ++ [place] else place :: further
termination_by place.rest.length

/-- The places at which a match can end, in the order in which they are tried. -/
def reached : Pattern → Place → List Place
  | text bytes, place =>
      if bytes.isPrefixOf place.rest then [place.pass bytes.length] else []
  | noneOf bytes, place =>
      match place.rest with
      | [] => []
      | b :: _ => if bytes.contains b then [] else [place.pass 1]
  | endOfInput, place => if place.rest.isEmpty then [place] else []
  | seq first second, place => (first.reached place).flatMap second.reached
  | alt first second, place => first.reached place ++ second.reached place
  | star eager body, place => repeated eager body.reached place
  | optional body, place => body.reached place ++ [place]
  | group body, place => (body.reached place).map Place.mark

/-- The first of several patterns that matches.  Of no patterns it is the empty one. -/
def anyOf : List Pattern → Pattern
  | [] => .text []
  | [only] => only
  | first :: second :: rest => .alt first (anyOf (second :: rest))

structure Match where
  start : Nat
  stop : Nat
  marked : Bool
  deriving DecidableEq, Repr

def match? (pattern : Pattern) (mayBeEmpty : Bool) (place : Place) : Option Place :=
  (pattern.reached place).find? fun next =>
    mayBeEmpty || decide (next.rest.length < place.rest.length)

/-- The matches in `rest`, which begins at `offset`. -/
def matchesFrom (pattern : Pattern) (mayBeEmpty : Bool) (offset : Nat) (rest : Bytes) :
    List Match :=
  match _hmatch : pattern.match? mayBeEmpty { offset, rest } with
  | some next =>
      ⟨offset, next.offset, next.marked⟩ ::
        if _hempty : mayBeEmpty ∧ ¬ next.rest.length < rest.length then
          pattern.matchesFrom false offset rest
        else pattern.matchesFrom true next.offset next.rest
  | none =>
      match rest with
      | [] => []
      | _ :: rest => pattern.matchesFrom true (offset + 1) rest
termination_by (rest.length, mayBeEmpty.toNat)
decreasing_by
  · simp only [_hempty.1]
    exact Prod.Lex.right _ (by decide)
  · have hfound := List.find?_some _hmatch
    refine Prod.Lex.left _ _ ?_
    by_contra hlength
    simp_all
  · exact Prod.Lex.left _ _ (by simp)

def markedSpans (pattern : Pattern) (source : Bytes) : List (Nat × Nat) :=
  ((pattern.matchesFrom true 0 source).filter Match.marked).map fun found =>
    (found.start, found.stop)

/-! ## What the search finds first -/

def first? (pattern : Pattern) (place : Place) : Option Place :=
  (pattern.reached place).head?

variable {eager : Bool} {body tail : Pattern} {place next : Place}

theorem first?_eq (pattern : Pattern) (place : Place) :
    pattern.first? place = (pattern.reached place).head? := rfl

theorem reached_text (bytes : Bytes) (place : Place) :
    (text bytes).reached place =
      if bytes.isPrefixOf place.rest then [place.pass bytes.length] else [] := rfl

theorem reached_endOfInput (place : Place) :
    endOfInput.reached place = if place.rest.isEmpty then [place] else [] := rfl

theorem reached_seq (first second : Pattern) (place : Place) :
    (seq first second).reached place = (first.reached place).flatMap second.reached := rfl

theorem reached_alt (first second : Pattern) (place : Place) :
    (alt first second).reached place = first.reached place ++ second.reached place := rfl

theorem reached_optional (body : Pattern) (place : Place) :
    (optional body).reached place = body.reached place ++ [place] := rfl

theorem reached_group (body : Pattern) (place : Place) :
    (group body).reached place = (body.reached place).map Place.mark := rfl

theorem match?_true (pattern : Pattern) (place : Place) :
    pattern.match? true place = pattern.first? place := by
  rw [first?_eq, match?]
  cases pattern.reached place <;> rfl

theorem first?_text (bytes : Bytes) (place : Place) :
    (text bytes).first? place =
      if bytes.isPrefixOf place.rest then some (place.pass bytes.length) else none := by
  rw [first?_eq, reached_text]
  split <;> rfl

theorem first?_endOfInput (place : Place) :
    endOfInput.first? place = if place.rest.isEmpty then some place else none := by
  rw [first?_eq, reached_endOfInput]
  split <;> rfl

theorem first?_alt (first second : Pattern) (place : Place) :
    (alt first second).first? place = (first.first? place).or (second.first? place) := by
  rw [first?_eq, first?_eq, first?_eq, reached_alt, List.head?_append]

theorem first?_optional (body : Pattern) (place : Place) :
    (optional body).first? place = some ((body.first? place).getD place) := by
  rw [first?_eq, first?_eq, reached_optional]
  cases body.reached place <;> rfl

theorem first?_group (body : Pattern) (place : Place) :
    (group body).first? place = (body.first? place).map Place.mark := by
  rw [first?_eq, first?_eq, reached_group, List.head?_map]

theorem first?_anyOf {patterns : List Pattern} (hpatterns : patterns ≠ []) (place : Place) :
    (anyOf patterns).first? place = patterns.findSome? fun pattern => pattern.first? place := by
  fun_induction anyOf patterns with
  | case1 => contradiction
  | case2 only =>
      rw [List.findSome?_cons, List.findSome?_nil]
      cases only.first? place <;> rfl
  | case3 first second rest ih =>
      rw [first?_alt, ih (by simp), List.findSome?_cons (a := first)]
      cases first.first? place <;> rfl

theorem first?_text_seq (bytes : Bytes) (tail : Pattern) (place : Place) :
    ((text bytes).seq tail).first? place =
      if bytes.isPrefixOf place.rest then tail.first? (place.pass bytes.length) else none := by
  rw [first?_eq, first?_eq, reached_seq, reached_text]
  split <;> simp

theorem noneOf_nil {bytes : List UInt8} (hrest : place.rest = []) :
    (noneOf bytes).reached place = [] := by
  simp [reached, hrest]

theorem noneOf_cons {bytes : List UInt8} {b : UInt8} {rest : Bytes}
    (hrest : place.rest = b :: rest) :
    (noneOf bytes).reached place = if b ∈ bytes then [] else [place.pass 1] := by
  simp [reached, hrest]

/-! ## Loops

Of a loop and what follows it, the ways that go through the body once more stand
before or behind the one that leaves the loop here.
-/

/-- One turn of a repetition, or none, in the order of its eagerness. -/
theorem reached_star_seq (eager : Bool) (body tail : Pattern) (place : Place) :
    ((star eager body).seq tail).reached place =
      let further := (body.reached place).flatMap fun next =>
        if next.rest.length < place.rest.length then
          ((star eager body).seq tail).reached next
        else []
      if eager then further ++ tail.reached place else tail.reached place ++ further := by
  have hfurther (next : Place) :
      (if next.rest.length < place.rest.length then repeated eager body.reached next
        else []).flatMap tail.reached =
        if next.rest.length < place.rest.length then
          (repeated eager body.reached next).flatMap tail.reached
        else [] := by
    split <;> rfl
  simp only [reached]
  rw [repeated]
  cases eager <;>
    simp only [dite_eq_ite, Bool.false_eq_true, if_false, if_true, List.flatMap_cons,
      List.flatMap_append, List.flatMap_assoc, hfurther]
  rw [List.flatMap_nil, List.append_nil]

theorem first?_star (eager : Bool) (body : Pattern) (place : Place) :
    (star eager body).first? place = ((star eager body).seq (text [])).first? place := by
  have hstay : (text []).reached = fun place => [place] := by
    funext place
    simp [reached]
  rw [first?, first?, reached_seq, hstay, List.flatMap_singleton']

theorem first?_star_stop (hbody : body.reached place = []) :
    ((star eager body).seq tail).first? place = tail.first? place := by
  unfold first?
  rw [reached_star_seq, hbody]
  cases eager <;> simp

/-- An eager repetition takes a further turn before it tries what follows. -/
theorem first?_eager_step
    (hbody : body.reached place = [next]) (hshorter : next.rest.length < place.rest.length) :
    ((star true body).seq tail).first? place =
      (((star true body).seq tail).first? next).or (tail.first? place) := by
  unfold first?
  rw [reached_star_seq, hbody]
  simp [hshorter]

/-- A lazy repetition tries what follows before it takes a further turn. -/
theorem first?_lazy_step
    (hbody : body.reached place = [next]) (hshorter : next.rest.length < place.rest.length) :
    ((star false body).seq tail).first? place =
      (tail.first? place).or (((star false body).seq tail).first? next) := by
  unfold first?
  rw [reached_star_seq, hbody]
  simp [hshorter]

/-! ## Going through a source -/

theorem matchesFrom_nil {pattern : Pattern} {offset : Nat}
    (hnone : pattern.first? { offset, rest := [] } = none) :
    pattern.matchesFrom true offset [] = [] := by
  rw [← match?_true] at hnone
  rw [matchesFrom]
  split <;> simp_all

theorem matchesFrom_none {pattern : Pattern} {offset : Nat} {b : UInt8} {rest : Bytes}
    (hnone : pattern.first? { offset, rest := b :: rest } = none) :
    pattern.matchesFrom true offset (b :: rest) = pattern.matchesFrom true (offset + 1) rest := by
  rw [← match?_true] at hnone
  rw [matchesFrom]
  split <;> simp_all

theorem matchesFrom_some {pattern : Pattern} {offset : Nat} {rest : Bytes} {next : Place}
    (hfirst : pattern.first? { offset, rest } = some next)
    (hshorter : next.rest.length < rest.length) :
    pattern.matchesFrom true offset rest =
      ⟨offset, next.offset, next.marked⟩ :: pattern.matchesFrom true next.offset next.rest := by
  rw [← match?_true] at hfirst
  rw [matchesFrom]
  split <;> simp_all

end Pattern
end SourceOutline
