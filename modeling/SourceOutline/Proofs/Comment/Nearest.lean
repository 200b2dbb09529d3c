import SourceOutline.Proofs.Comment.Index
import Mathlib.Data.List.MinMax
import Mathlib.Data.List.TakeWhile
import Mathlib.Data.Prod.Lex

/-!
# The nearest comment

Whatever comments an index is made of, the comment that it finds for a declaration
is the one that an exhaustive search finds: of all comments that end in front of the
declaration, and not too many lines above it, the one with the least distance, and of
several such the one with the least end, then the least start, then the one given
first.

Lines do not fall along the sorted ends, so on the way back from the declaration the
distances do not fall either.  The first comment met therefore has the least distance
of all.  The comments that share this distance come next, one after the other, and the
last of them to be met is the first of them in the order of the index.  What lies
further back is further away, so nothing is lost by stopping there.  Sorting keeps the
order of comments that have the same span.
-/

namespace SourceOutline
namespace CommentIndex

/-! ## The exhaustive search -/

/-- How many lines above the line of `start` a comment ends. -/
def linesAbove (index : CommentIndex) (start : Nat) (comment : Comment) : Int :=
  index.lineOf start - index.lineOf comment.stop

def Qualifies (index : CommentIndex) (start : Nat) (limit : Int) (comment : Comment) : Prop :=
  comment.stop ≤ start ∧ 0 ≤ index.linesAbove start comment ∧
    index.linesAbove start comment ≤ limit

def rank (index : CommentIndex) (start : Nat) (comment : Comment) : Int ×ₗ Nat ×ₗ Nat :=
  toLex (index.linesAbove start comment, toLex (comment.stop, comment.start))

def IsForemost (index : CommentIndex) (start : Nat) (limit : Int) (comments : List Comment)
    (comment : Comment) : Prop :=
  index.Qualifies start limit comment ∧
    ∀ other ∈ comments, index.Qualifies start limit other →
      index.rank start comment ≤ index.rank start other

instance (index : CommentIndex) (start : Nat) (limit : Int) (comment : Comment) :
    Decidable (index.Qualifies start limit comment) :=
  inferInstanceAs (Decidable (_ ∧ _ ∧ _))

instance (index : CommentIndex) (start : Nat) (limit : Int) (comments : List Comment)
    (comment : Comment) : Decidable (index.IsForemost start limit comments comment) :=
  inferInstanceAs (Decidable (_ ∧ ∀ other ∈ comments, _ → _))

variable {index : CommentIndex} {start : Nat} {limit : Int}

theorem rank_le_iff {comment other : Comment} :
    index.rank start comment ≤ index.rank start other ↔
      index.linesAbove start comment < index.linesAbove start other ∨
        index.linesAbove start comment = index.linesAbove start other ∧
          endsBefore comment other := by
  simp only [rank, Prod.Lex.toLex_le_toLex, endsBefore, Bool.or_eq_true, Bool.and_eq_true,
    decide_eq_true_eq, beq_iff_eq]

/-! ## Lines along the order -/

theorem lineOf_mono (index : CommentIndex) {first second : Nat} (hle : first ≤ second) :
    index.lineOf first ≤ index.lineOf second := by
  have hbefore :
      index.newlines.takeWhile (· < first) =
        (index.newlines.takeWhile (· < second)).takeWhile (· < first) := by
    rw [List.takeWhile_takeWhile]
    congr 1
    funext offset
    simp only [decide_eq_true_eq, decide_eq_decide]
    omega
  unfold lineOf
  rw [hbefore]
  exact Nat.succ_le_succ (List.takeWhile_prefix _).length_le

theorem linesAbove_anti {a b : Comment} (hstop : a.stop ≤ b.stop) :
    index.linesAbove start b ≤ index.linesAbove start a := by
  have hline := index.lineOf_mono hstop
  unfold linesAbove
  omega

theorem linesAbove_nonneg {comment : Comment} (hstop : comment.stop ≤ start) :
    0 ≤ index.linesAbove start comment := by
  have hline := index.lineOf_mono hstop
  unfold linesAbove
  omega

theorem qualifies_iff {comment : Comment} :
    index.Qualifies start limit comment ↔
      comment.stop ≤ start ∧ index.linesAbove start comment ≤ limit := by
  unfold Qualifies
  constructor
  · rintro ⟨hstop, _, hlimit⟩
    exact ⟨hstop, hlimit⟩
  · rintro ⟨hstop, hlimit⟩
    exact ⟨hstop, linesAbove_nonneg hstop, hlimit⟩

theorem takeWhile_eq_filter
    {α : Type} {p : α → Bool} {xs : List α} (hsorted : xs.Pairwise fun a b => p b → p a) :
    xs.takeWhile p = xs.filter p := by
  induction xs with
  | nil => rfl
  | cons x xs ih =>
      rw [List.pairwise_cons] at hsorted
      by_cases hx : p x
      · simp [hx, ih hsorted.2]
      · have hnone : ∀ y ∈ xs, ¬ p y := fun y hy hpy => hx (hsorted.1 y hy hpy)
        have hrest : xs.filter p = [] := List.filter_eq_nil_iff.mpr hnone
        simp [hx, hrest]

/-! ## The way back -/

/-- Once a comment is found, the way back ends at the first one, in the order of the
index, that is as near. -/
theorem closest_some
    {best : Comment} {rest : List Comment}
    (hlimit : index.linesAbove start best ≤ limit)
    (hfalls : (best :: rest).Pairwise fun a b =>
      index.linesAbove start a ≤ index.linesAbove start b) :
    index.closest (index.lineOf start) limit (some best) (index.linesAbove start best) rest =
      (best :: rest).reverse.find? fun comment =>
        index.linesAbove start comment = index.linesAbove start best := by
  induction rest generalizing best with
  | nil => simp [closest]
  | cons comment rest ih =>
      obtain ⟨hnearest, hfalls⟩ := List.pairwise_cons.mp hfalls
      have hnext := hnearest comment List.mem_cons_self
      have hrest := (List.pairwise_cons.mp hfalls).1
      simp only [closest]
      rw [← linesAbove]
      by_cases hfar : limit < index.linesAbove start comment
      · have hnone :
            (comment :: rest).reverse.find? (fun other =>
              index.linesAbove start other = index.linesAbove start best) = none := by
          rw [List.find?_eq_none]
          intro other hother
          simp only [List.mem_reverse, List.mem_cons] at hother
          have haway : index.linesAbove start comment ≤ index.linesAbove start other := by
            rcases hother with rfl | hother
            · exact le_refl _
            · exact hrest other hother
          simp only [decide_eq_true_eq]
          omega
        rw [if_pos hfar, List.reverse_cons, List.find?_append, hnone]
        simp
      · rw [if_neg hfar]
        by_cases hties : index.linesAbove start comment ≤ index.linesAbove start best
        · have hsame : index.linesAbove start comment = index.linesAbove start best :=
            le_antisymm hties hnext
          have hfound :
              ((comment :: rest).reverse.find? fun other =>
                index.linesAbove start other = index.linesAbove start best).isSome := by
            rw [List.find?_isSome]
            exact ⟨comment, by simp, by simp [hsame]⟩
          rw [if_pos hties, ih (by omega) hfalls, hsame, List.reverse_cons (a := best),
            List.find?_append, Option.or_of_isSome hfound]
        · have hothers : (best :: rest).Pairwise fun a b =>
              index.linesAbove start a ≤ index.linesAbove start b := by
            rw [List.pairwise_cons]
            refine ⟨fun other hother => ?_, (List.pairwise_cons.mp hfalls).2⟩
            exact hnearest other (List.mem_cons_of_mem comment hother)
          have hother : index.linesAbove start comment ≠ index.linesAbove start best := by
            omega
          rw [if_neg hties, ih hlimit hothers]
          simp [List.find?_append, hother]

theorem closest_none
    {comment : Comment} {rest : List Comment}
    (hfalls : (comment :: rest).Pairwise fun a b =>
      index.linesAbove start a ≤ index.linesAbove start b) :
    index.closest (index.lineOf start) limit none (limit + 1) (comment :: rest) =
      if limit < index.linesAbove start comment then none
      else
        (comment :: rest).reverse.find? fun other =>
          index.linesAbove start other = index.linesAbove start comment := by
  simp only [closest]
  rw [← linesAbove]
  by_cases hfar : limit < index.linesAbove start comment
  · rw [if_pos hfar, if_pos hfar]
  · rw [if_neg hfar, if_neg hfar, if_pos (by omega), closest_some (by omega) hfalls]

theorem isForemost_congr
    {comments others : List Comment} {comment : Comment}
    (hsame : ∀ other, index.Qualifies start limit other → (other ∈ comments ↔ other ∈ others)) :
    index.IsForemost start limit comments comment ↔
      index.IsForemost start limit others comment := by
  unfold IsForemost
  constructor
  · rintro ⟨hqualifies, hleast⟩
    exact ⟨hqualifies, fun other hother hnext =>
      hleast other ((hsame other hnext).mpr hother) hnext⟩
  · rintro ⟨hqualifies, hleast⟩
    exact ⟨hqualifies, fun other hother hnext =>
      hleast other ((hsame other hnext).mp hother) hnext⟩

theorem find?_isForemost_of_far
    {comments : List Comment}
    (hfar : ∀ comment ∈ comments, limit < index.linesAbove start comment) :
    (comments.find? fun comment => index.IsForemost start limit comments comment) = none := by
  rw [List.find?_eq_none]
  intro comment hcomment hforemost
  have hlimit := (of_decide_eq_true hforemost).1.2.2
  have haway := hfar comment hcomment
  omega

theorem endsBefore_of_isForemost
    {comments : List Comment} {first second : Comment}
    (hfirst : index.IsForemost start limit comments first) (hmem : second ∈ comments)
    (hsecond : index.IsForemost start limit comments second) (hmem' : first ∈ comments) :
    endsBefore first second := by
  have hle := rank_le_iff.mp (hfirst.2 second hmem hsecond.1)
  have hge := rank_le_iff.mp (hsecond.2 first hmem' hfirst.1)
  rcases hle with hlt | ⟨_, hends⟩
  · omega
  · exact hends

/-- In the order of the index the foremost comment is the first one of least distance. -/
theorem find?_isForemost
    {before : List Comment} (hsorted : before.Pairwise fun a b => endsBefore a b)
    (hbefore : ∀ comment ∈ before, comment.stop ≤ start) {last : Comment} (hlast : last ∈ before)
    (hleast : ∀ comment ∈ before, index.linesAbove start last ≤ index.linesAbove start comment)
    (hnear : index.linesAbove start last ≤ limit) :
    (before.find? fun comment => index.IsForemost start limit before comment) =
      before.find? fun comment =>
        index.linesAbove start comment = index.linesAbove start last := by
  have hfound :
      (before.find? fun comment =>
        index.linesAbove start comment = index.linesAbove start last).isSome := by
    rw [List.find?_isSome]
    exact ⟨last, hlast, by simp⟩
  obtain ⟨first, hfirst⟩ := Option.isSome_iff_exists.mp hfound
  rw [hfirst]
  rw [List.find?_eq_some_iff_append] at hfirst
  obtain ⟨hsame, front, back, hsplit, hfront⟩ := hfirst
  simp only [decide_eq_true_eq] at hsame
  simp only [Bool.not_eq_true', decide_eq_false_iff_not] at hfront
  have hmem : first ∈ before := by simp [hsplit]
  have hqualifies : index.Qualifies start limit first := by
    rw [qualifies_iff]
    exact ⟨hbefore first hmem, by omega⟩
  rw [List.find?_eq_some_iff_append]
  refine ⟨decide_eq_true ⟨hqualifies, ?_⟩, front, back, hsplit, ?_⟩
  · intro other hother _
    rw [rank_le_iff]
    have haway := hleast other hother
    by_cases hties : index.linesAbove start other = index.linesAbove start last
    · -- What is as near as the first one does not stand in front of it.
      rw [hsplit, List.mem_append, List.mem_cons] at hother
      rw [hsplit, List.pairwise_append, List.pairwise_cons] at hsorted
      refine .inr ⟨by omega, ?_⟩
      rcases hother with hother | rfl | hother
      · exact absurd hties (hfront other hother)
      · simpa using endsBefore_total other other
      · exact hsorted.2.1.1 other hother
    · exact .inl (by omega)
  · intro other hother
    have hfurther := hfront other hother
    have haway := hleast other (by simp [hsplit, hother])
    simp only [Bool.not_eq_true', decide_eq_false_iff_not]
    intro hforemost
    have hrank := hforemost.2 first hmem hqualifies
    rw [rank_le_iff] at hrank
    omega

/-- The way back over comments in their order finds the foremost of them. -/
theorem closest_eq_find?
    {before : List Comment} (hsorted : before.Pairwise fun a b => endsBefore a b)
    (hbefore : ∀ comment ∈ before, comment.stop ≤ start) :
    index.closest (index.lineOf start) limit none (limit + 1) before.reverse =
      before.find? fun comment => index.IsForemost start limit before comment := by
  have hfalls : before.reverse.Pairwise fun a b =>
      index.linesAbove start a ≤ index.linesAbove start b := by
    rw [List.pairwise_reverse]
    exact hsorted.imp fun hab => linesAbove_anti (stop_le_of_endsBefore hab)
  cases hreverse : before.reverse with
  | nil =>
      rw [List.reverse_eq_nil_iff] at hreverse
      simp [hreverse, closest]
  | cons last rest =>
      rw [hreverse] at hfalls
      have hmem (comment : Comment) : comment ∈ before ↔ comment = last ∨ comment ∈ rest := by
        rw [← List.mem_reverse, hreverse, List.mem_cons]
      have hleast : ∀ comment ∈ before,
          index.linesAbove start last ≤ index.linesAbove start comment := by
        intro comment hcomment
        rcases (hmem comment).mp hcomment with rfl | hcomment
        · exact le_refl _
        · exact (List.pairwise_cons.mp hfalls).1 comment hcomment
      rw [closest_none hfalls, ← hreverse, List.reverse_reverse]
      by_cases hfar : limit < index.linesAbove start last
      · have hall : ∀ comment ∈ before, limit < index.linesAbove start comment :=
          fun comment hcomment => hfar.trans_le (hleast comment hcomment)
        rw [if_pos hfar, find?_isForemost_of_far hall]
      · have hlast := (hmem last).mpr (.inl rfl)
        rw [if_neg hfar, find?_isForemost hsorted hbefore hlast hleast (not_lt.mp hfar)]

/-! ## Any comments -/

/-- Where some comment qualifies, one of them is foremost. -/
theorem exists_isForemost
    {comments : List Comment} {comment : Comment} (hcomment : comment ∈ comments)
    (hqualifies : index.Qualifies start limit comment) :
    ∃ foremost ∈ comments, index.IsForemost start limit comments foremost := by
  let qualified := comments.filter fun comment => index.Qualifies start limit comment
  have hmem (comment : Comment) :
      comment ∈ qualified ↔ comment ∈ comments ∧ index.Qualifies start limit comment := by
    simp [qualified]
  cases hleast : qualified.argmin (index.rank start) with
  | none =>
      rw [List.argmin_eq_none] at hleast
      have hnone := (hmem comment).mpr ⟨hcomment, hqualifies⟩
      simp [hleast] at hnone
  | some foremost =>
      obtain ⟨hforemost, hnext⟩ := (hmem foremost).mp (List.argmin_mem hleast)
      refine ⟨foremost, hforemost, hnext, ?_⟩
      intro other hother hotherNext
      exact List.le_of_mem_argmin ((hmem other).mpr ⟨hother, hotherNext⟩) hleast

theorem nearest_eq_find?
    (source : Bytes) (comments : List Comment) (start : Nat) (limit : Int)
    {index : CommentIndex} (hindex : index = ofComments source comments) :
    index.nearest start limit =
      (comments.find? fun comment => index.IsForemost start limit comments comment).map
        Comment.text := by
  have hsorted : index.comments.Pairwise fun a b => endsBefore a b := by
    rw [hindex]
    exact comments_sorted source comments
  have hmem (comment : Comment) : comment ∈ index.comments ↔ comment ∈ comments := by
    rw [hindex]
    exact (comments_perm source comments).mem_iff
  have hbefore :
      index.comments.takeWhile (·.stop ≤ start) = index.comments.filter (·.stop ≤ start) := by
    apply takeWhile_eq_filter
    refine hsorted.imp fun hab hb => ?_
    have hstop := stop_le_of_endsBefore hab
    simp only [decide_eq_true_eq] at hb ⊢
    omega
  have hforemost (comment : Comment) :
      index.IsForemost start limit (index.comments.filter (·.stop ≤ start)) comment ↔
        index.IsForemost start limit comments comment := by
    apply isForemost_congr
    intro other hother
    simp [hmem, hother.1]
  have hkept :
      (index.comments.filter (·.stop ≤ start)).find?
          (fun comment => index.IsForemost start limit comments comment) =
        index.comments.find? fun comment => index.IsForemost start limit comments comment := by
    rw [List.find?_filter]
    congr 1
    funext comment
    simp only [decide_eq_true_eq, decide_eq_decide, and_iff_right_iff_imp]
    exact fun hforemost => hforemost.1.1
  have hties : ∀ a ∈ comments, ∀ b ∈ comments,
      decide (index.IsForemost start limit comments a) →
        decide (index.IsForemost start limit comments b) → endsBefore a b := by
    intro a ha b hb hfirst hsecond
    rw [decide_eq_true_eq] at hfirst hsecond
    exact endsBefore_of_isForemost hfirst hb hsecond ha
  unfold nearest
  simp only [hbefore]
  rw [closest_eq_find? (hsorted.filter _) (by simp)]
  simp only [hforemost]
  rw [hkept, hindex, find?_comments source (hindex ▸ hties)]

/-- The nearest comment is the one that an exhaustive search through the given comments
finds, and there is none exactly if no comment qualifies. -/
theorem nearest_eq_exhaustive
    (source : Bytes) (comments : List Comment) (start : Nat) (limit : Int) :
    let index := ofComments source comments
    index.nearest start limit =
        (comments.find? fun comment => index.IsForemost start limit comments comment).map
          Comment.text ∧
      (index.nearest start limit = none ↔
        ∀ comment ∈ comments, ¬ index.Qualifies start limit comment) := by
  intro index
  have hindex : index = ofComments source comments := rfl
  have hnearest := nearest_eq_find? source comments start limit hindex
  refine ⟨hnearest, ?_⟩
  rw [hnearest, Option.map_eq_none_iff, List.find?_eq_none]
  constructor
  · intro hnone comment hcomment hqualifies
    obtain ⟨foremost, hmem, hforemost⟩ := exists_isForemost hcomment hqualifies
    exact hnone foremost hmem (decide_eq_true hforemost)
  · intro hnone comment hcomment hforemost
    exact hnone comment hcomment (of_decide_eq_true hforemost).1

end CommentIndex
end SourceOutline
