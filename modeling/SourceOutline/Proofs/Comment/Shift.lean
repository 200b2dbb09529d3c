import SourceOutline.Proofs.Comment.Nodes
import SourceOutline.Proofs.Text.Lines
import SourceOutline.Proofs.Tree.Shift

/-!
# Comments of a source with bytes in front of it

Bytes that begin no string and no comment are passed over one by one, so the
scanner comes to the source behind them as it would come to the source alone, only
at later offsets.  Every comment that it finds is found at these offsets with the
same text.  The same holds of comment nodes when their tree is moved along, and
joining the two kinds compares offsets among themselves only.

Distances are differences of lines.  The newlines in front raise both lines by
their number, so the nearest comment stays the nearest.
-/

namespace SourceOutline

/-! ## The scanner -/

/-- The bytes with which a string or a comment may begin. -/
def CommentStyle.firstBytes (style : CommentStyle) : List UInt8 :=
  (if style.tripleQuoted then [Comment.Scan.doubleQuote, Comment.Scan.singleQuote] else []) ++
    (style.quotes ++
      (style.blockMarks.filterMap (·.opener.head?) ++ style.lineMarks.filterMap List.head?))

/-- Bytes among which no string and no comment begins. -/
def CommentStyle.Inert (style : CommentStyle) (front : Bytes) : Prop :=
  ∀ b ∈ front, b ∉ style.firstBytes

namespace Comment

def shifted (amount : Nat) (comment : Comment) : Comment :=
  { comment with start := comment.start + amount, stop := comment.stop + amount }

namespace Scan

def shiftedSpan (amount : Nat) (span : Nat × Nat) : Nat × Nat :=
  (span.1 + amount, span.2 + amount)

theorem lexeme?_eq_none
    {style : CommentStyle} {first : UInt8} (hfirst : first ∉ style.firstBytes) (rest : Bytes) :
    lexeme? style first rest = none := by
  simp only [CommentStyle.firstBytes, List.mem_append, List.mem_filterMap, not_or, not_exists,
    not_and] at hfirst
  obtain ⟨htriple, hquotes, hblocks, hlines⟩ := hfirst
  have hnoTriple : (if style.tripleQuoted then triple? first rest else none) = none := by
    split at htriple
    next henabled =>
      simp only [List.mem_cons, List.not_mem_nil, or_false, not_or] at htriple
      simp [henabled, triple?, htriple]
    next hdisabled => simp [hdisabled]
  have hnoQuoted : style.quotes.findSome? (quoted? first rest) = none := by
    rw [List.findSome?_eq_none_iff]
    intro quote hquote
    have hother : first ≠ quote := fun heq => hquotes (heq ▸ hquote)
    simp [quoted?, hother]
  have hnoBlock : style.blockMarks.findSome? (block? first rest) = none := by
    rw [List.findSome?_eq_none_iff]
    intro marks hmarks
    have hother := hblocks marks hmarks
    unfold block?
    cases hopener : marks.opener with
    | nil => rfl
    | cons o opener =>
        rw [hopener, List.head?_cons, Option.some.injEq] at hother
        simp [Ne.symm hother]
  have hnoLine : style.lineMarks.findSome? (line? first rest) = none := by
    rw [List.findSome?_eq_none_iff]
    intro mark hmark
    have hother := hlines mark hmark
    unfold line?
    cases mark with
    | nil => rfl
    | cons m mark =>
        rw [List.head?_cons, Option.some.injEq] at hother
        simp [Ne.symm hother]
  unfold lexeme?
  rw [hnoTriple, hnoQuoted, hnoBlock, hnoLine]
  rfl

/-- Bytes with which nothing begins are passed over. -/
theorem spansFrom_append
    {style : CommentStyle} {front : Bytes} (hfront : style.Inert front) (offset : Nat)
    (found : List (Nat × Nat)) (rest : Bytes) :
    spansFrom style offset found (front ++ rest) =
      spansFrom style (offset + front.length) found rest := by
  induction front generalizing offset with
  | nil => rfl
  | cons b front ih =>
      have hnone := lexeme?_eq_none (hfront b List.mem_cons_self) (front ++ rest)
      have hothers := ih (fun c hc => hfront c (List.mem_cons_of_mem b hc)) (offset + 1)
      rw [List.cons_append, spansFrom, hnone]
      simp only
      rw [hothers, List.length_cons, Nat.add_assoc, Nat.add_comm 1]

theorem spansFrom_shifted
    (style : CommentStyle) (offset amount : Nat) (found : List (Nat × Nat)) (bytes : Bytes) :
    spansFrom style (offset + amount) (found.map (shiftedSpan amount)) bytes =
      (spansFrom style offset found bytes).map (shiftedSpan amount) := by
  fun_induction spansFrom style offset found bytes with
  | case1 => simp [spansFrom]
  | case2 offset found first rest hnone ih =>
      rw [spansFrom, hnone]
      simp only
      rw [Nat.add_right_comm, ih]
  | case3 offset found first rest extra hliteral ih =>
      rw [spansFrom, hliteral]
      simp only
      rw [Nat.add_right_comm offset, Nat.add_right_comm, ih]
  | case4 offset found first rest extra hcomment ih =>
      rw [spansFrom, hcomment]
      simp only
      rw [Nat.add_right_comm offset, Nat.add_right_comm, ← ih]
      rfl

end Scan

theorem spans_append
    {style : CommentStyle} {front : Bytes} (hfront : style.Inert front) (source : Bytes) :
    spans style (front ++ source) =
      (spans style source).map (Scan.shiftedSpan front.length) := by
  have hmoved := Scan.spansFrom_shifted style 0 front.length [] source
  unfold spans
  split
  · rw [Scan.spansFrom_append hfront, List.map_reverse, ← hmoved]
    rfl
  · rfl

theorem ofSpan_append (front source : Bytes) (start stop : Nat) :
    ofSpan (front ++ source) (start + front.length) (stop + front.length) =
      (ofSpan source start stop).shifted front.length := by
  unfold ofSpan
  rw [Bytes.sameTextAt_append]
  rfl

theorem scan_append
    {style : CommentStyle} {front : Bytes} (hfront : style.Inert front) (source : Bytes) :
    scan style (front ++ source) = (scan style source).map (shifted front.length) := by
  unfold scan
  rw [spans_append hfront, List.map_map, List.map_map]
  congr 1
  funext span
  exact ofSpan_append front source span.1 span.2

end Comment

/-! ## The nodes of a tree -/

theorem Node.outermostComments_shifted (amount : Nat) (node : Node) :
    (node.shifted amount).outermostComments = node.outermostComments.map (shifted amount) := by
  induction node using childrenInduction with
  | step node ih =>
      rw [outermostComments_eq, outermostComments_eq, kind_shifted, children_shifted]
      split
      · rfl
      · rw [outermostCommentsAll_eq_flatMap, outermostCommentsAll_eq_flatMap, List.flatMap_map,
          List.map_flatMap]
        exact List.flatMap_congr ih

theorem Node.commentNodes_shifted (amount : Nat) (root : Node) :
    (root.shifted amount).commentNodes = root.commentNodes.map (shifted amount) := by
  rw [commentNodes_eq, commentNodes_eq, outermostComments_shifted]

theorem Node.toComment_shifted (front source : Bytes) (node : Node) :
    (node.shifted front.length).toComment (front ++ source) =
      (node.toComment source).shifted front.length := by
  unfold toComment
  rw [start_shifted, stop_shifted, Comment.ofSpan_append]

/-! ## The index -/

namespace CommentIndex

theorem stop_beq_shifted (amount : Nat) (a b : Comment) :
    ((a.shifted amount).stop == (b.shifted amount).stop) = (a.stop == b.stop) := by
  rw [Bool.eq_iff_iff]
  simp [Comment.shifted]

theorem endsBefore_shifted (amount : Nat) (a b : Comment) :
    endsBefore (a.shifted amount) (b.shifted amount) = endsBefore a b := by
  unfold endsBefore
  rw [stop_beq_shifted]
  simp [Comment.shifted]

theorem put_shifted (amount : Nat) (comments : List Comment) (comment : Comment) :
    put (comments.map (Comment.shifted amount)) (comment.shifted amount) =
      (put comments comment).map (Comment.shifted amount) := by
  induction comments with
  | nil => rfl
  | cons first rest ih =>
      have hstop :
          (first.shifted amount).stop = (comment.shifted amount).stop ↔
            first.stop = comment.stop := by
        simp [Comment.shifted]
      rw [List.map_cons, put, put]
      by_cases hsame : first.stop = comment.stop
      · rw [if_pos (hstop.mpr hsame), if_pos hsame, List.map_cons]
      · rw [if_neg (mt hstop.mp hsame), if_neg hsame, ih, List.map_cons]

theorem foldl_put_shifted (amount : Nat) (before comments : List Comment) :
    (comments.map (Comment.shifted amount)).foldl put (before.map (Comment.shifted amount)) =
      (comments.foldl put before).map (Comment.shifted amount) := by
  induction comments generalizing before with
  | nil => rfl
  | cons comment rest ih => rw [List.map_cons, List.foldl_cons, put_shifted, ih, List.foldl_cons]

theorem addMissing_shifted (amount : Nat) (comments : List Comment) (comment : Comment) :
    addMissing (comments.map (Comment.shifted amount)) (comment.shifted amount) =
      (addMissing comments comment).map (Comment.shifted amount) := by
  have hknown :
      (comments.map (Comment.shifted amount)).any (·.stop == (comment.shifted amount).stop) =
        comments.any (·.stop == comment.stop) := by
    simp only [List.any_map, Function.comp_def, stop_beq_shifted]
  unfold addMissing
  rw [hknown]
  split
  · rfl
  · rw [List.map_append]
    rfl

theorem foldl_addMissing_shifted (amount : Nat) (comments others : List Comment) :
    (others.map (Comment.shifted amount)).foldl addMissing
        (comments.map (Comment.shifted amount)) =
      (others.foldl addMissing comments).map (Comment.shifted amount) := by
  induction others generalizing comments with
  | nil => rfl
  | cons comment others ih =>
      rw [List.map_cons, List.foldl_cons, addMissing_shifted, ih, List.foldl_cons]

theorem ofComments_shifted (amount : Nat) (source moved : Bytes) (comments : List Comment) :
    (ofComments moved (comments.map (Comment.shifted amount))).comments =
      (ofComments source comments).comments.map (Comment.shifted amount) := by
  unfold ofComments
  symm
  apply List.map_mergeSort
  intro a _ b _
  exact (endsBefore_shifted amount a b).symm

theorem ofSource_append
    {style : CommentStyle} {front : Bytes} (hfront : style.Inert front) (source : Bytes)
    (root : Node) :
    (ofSource style (front ++ source) (some (root.shifted front.length))).comments =
      (ofSource style source (some root)).comments.map (Comment.shifted front.length) := by
  have hnodes :
      (root.shifted front.length).commentNodes.map (·.toComment (front ++ source)) =
        (root.commentNodes.map (·.toComment source)).map (Comment.shifted front.length) := by
    rw [Node.commentNodes_shifted, List.map_map, List.map_map]
    congr 1
    funext node
    exact node.toComment_shifted front source
  have hscanned := foldl_put_shifted front.length [] (Comment.scan style source)
  rw [List.map_nil] at hscanned
  simp only [ofSource, Option.elim_some, hnodes, Comment.scan_append hfront, hscanned,
    foldl_addMissing_shifted]
  exact ofComments_shifted front.length source (front ++ source) _

/-- Offsets and lines of an index are raised, by two amounts. -/
structure Raised (amount lines : Nat) (index other : CommentIndex) : Prop where
  comments : other.comments = index.comments.map (Comment.shifted amount)
  lineOf : ∀ offset, other.lineOf (offset + amount) = index.lineOf offset + lines

variable {amount lines : Nat} {index other : CommentIndex}

theorem Raised.closest
    (hraised : Raised amount lines index other) (line : Nat) (limit : Int)
    (best : Option Comment) (distance : Int) (comments : List Comment) :
    other.closest (line + lines) limit (best.map (Comment.shifted amount)) distance
        (comments.map (Comment.shifted amount)) =
      (index.closest line limit best distance comments).map (Comment.shifted amount) := by
  induction comments generalizing best distance with
  | nil => rfl
  | cons comment comments ih =>
      have haway :
          ((line + lines : Nat) : Int) - other.lineOf (comment.shifted amount).stop =
            line - index.lineOf comment.stop := by
        have hline := hraised.lineOf comment.stop
        simp only [Comment.shifted, hline]
        omega
      simp only [List.map_cons, CommentIndex.closest, haway]
      split
      · rfl
      · split
        · exact ih (some comment) _
        · exact ih best distance

/-- Moving a declaration and all comments together changes no choice. -/
theorem Raised.nearest
    (hraised : Raised amount lines index other) (start : Nat) (limit : Int) :
    other.nearest (start + amount) limit = index.nearest start limit := by
  have hbefore :
      (other.comments.takeWhile (·.stop ≤ start + amount)).reverse =
        ((index.comments.takeWhile (·.stop ≤ start)).reverse).map (Comment.shifted amount) := by
    rw [hraised.comments, List.takeWhile_map, List.map_reverse]
    simp [Function.comp_def, Comment.shifted]
  have hclosest :=
    hraised.closest (index.lineOf start) limit none (limit + 1)
      (index.comments.takeWhile (·.stop ≤ start)).reverse
  rw [Option.map_none] at hclosest
  simp only [CommentIndex.nearest, hbefore, hraised.lineOf, hclosest, Option.map_map]
  rfl

end CommentIndex

theorem Bytes.lineAt_append (front source : Bytes) (offset : Nat) :
    (front ++ source).lineAt (offset + front.length) =
      source.lineAt offset + front.count newline := by
  unfold lineAt
  rw [Nat.add_comm offset, List.take_length_add_append, List.count_append]
  omega

/-- Inert bytes in front raise the lines of an index by the newlines among them. -/
theorem CommentIndex.ofSource_raised
    {style : CommentStyle} {front : Bytes} (hfront : style.Inert front) (source : Bytes)
    (root : Node) :
    Raised front.length (front.count Bytes.newline) (ofSource style source (some root))
      (ofSource style (front ++ source) (some (root.shifted front.length))) := by
  constructor
  · exact ofSource_append hfront source root
  · intro offset
    rw [lineOf_eq_lineAt rfl, lineOf_eq_lineAt rfl, Bytes.lineAt_append]

end SourceOutline
