import SourceOutline.Proofs.Comment.Nodes
import SourceOutline.Proofs.Comment.Spans

/-!
# What an index of comments holds

An index keeps its comments in the order of their ends.  The index of a source has at
most one comment for each end: the one that the scanner found there, or else the first
comment node of the tree, in document order, that ends there.  Only outermost comment
nodes count, those that lie below no other comment node.

The comments of the scanner end at different places, so none of them is lost.  A comment
of the tree is added only where no comment ends yet, so of several nodes with the same
end the first one stays, and sorting brings the ends into a strictly increasing order.
-/

namespace SourceOutline
namespace CommentIndex

/-! ## The order of an index -/

theorem endsBefore_trans (a b c : Comment) (hab : endsBefore a b) (hbc : endsBefore b c) :
    endsBefore a c := by
  simp only [endsBefore, Bool.or_eq_true, Bool.and_eq_true, decide_eq_true_eq,
    beq_iff_eq] at hab hbc ⊢
  omega

theorem endsBefore_total (a b : Comment) : (endsBefore a b || endsBefore b a) = true := by
  simp only [endsBefore, Bool.or_eq_true, Bool.and_eq_true, decide_eq_true_eq, beq_iff_eq]
  omega

theorem stop_le_of_endsBefore {a b : Comment} (hab : endsBefore a b) : a.stop ≤ b.stop := by
  simp only [endsBefore, Bool.or_eq_true, Bool.and_eq_true, decide_eq_true_eq,
    beq_iff_eq] at hab
  omega

theorem comments_sorted (source : Bytes) (comments : List Comment) :
    (ofComments source comments).comments.Pairwise fun a b => endsBefore a b :=
  List.pairwise_mergeSort endsBefore_trans endsBefore_total comments

theorem comments_perm (source : Bytes) (comments : List Comment) :
    (ofComments source comments).comments.Perm comments :=
  comments.mergeSort_perm endsBefore

/-- Sorting keeps the first comment with a property if comments that share the property
have the same place in the order. -/
theorem find?_comments
    (source : Bytes) {comments : List Comment} {p : Comment → Bool}
    (hties : ∀ a ∈ comments, ∀ b ∈ comments, p a → p b → endsBefore a b) :
    (ofComments source comments).comments.find? p = comments.find? p := by
  have hsorted : (comments.filter p).Pairwise fun a b => endsBefore a b := by
    apply List.pairwise_of_forall_mem_list
    intro a ha b hb
    rw [List.mem_filter] at ha hb
    exact hties a ha.1 b hb.1 ha.2 hb.2
  have hkept : (comments.filter p).Sublist (ofComments source comments).comments :=
    List.sublist_mergeSort endsBefore_trans endsBefore_total hsorted List.filter_sublist
  have hkept : (comments.filter p).Sublist ((ofComments source comments).comments.filter p) := by
    simpa using hkept.filter p
  have hsame := hkept.eq_of_length ((comments_perm source comments).filter p).length_eq.symm
  rw [← List.head?_filter, ← List.head?_filter, hsame]

end CommentIndex

/-! ## The outermost comment nodes -/

namespace Node

/-- The comment node at the end of a path, unless it lies below a comment node. -/
def outermostCommentAt? (root : Node) (path : List Nat) : Option Node :=
  if (root.edges path).any fun edge => isCommentKind edge.parent.kind then none
  else (root.at? path).filter fun node => isCommentKind node.kind

theorem outermostCommentAt?_nil (node : Node) :
    node.outermostCommentAt? [] = if isCommentKind node.kind then some node else none := by
  by_cases hcomment : isCommentKind node.kind
  · simp [outermostCommentAt?, hcomment]
  · simp [outermostCommentAt?, hcomment]

theorem outermostCommentAt?_cons
    {node child : Node} {index : Nat} (hchild : node.children[index]? = some child)
    (rest : List Nat) :
    node.outermostCommentAt? (index :: rest) =
      if isCommentKind node.kind then none else child.outermostCommentAt? rest := by
  unfold outermostCommentAt?
  rw [edges_cons hchild, at?_cons, hchild, Option.bind_some, List.any_cons]
  by_cases hcomment : isCommentKind node.kind
  · simp [hcomment]
  · simp [hcomment]

/-- Going down as far as the first comment on every way comes to the comment nodes without
a comment node above them, in the order of their paths. -/
theorem outermostComments_eq_filterMap (node : Node) :
    node.outermostComments = node.paths.filterMap node.outermostCommentAt? := by
  induction node using childrenInduction with
  | step node ih =>
      have hbelow :
          (pathsFrom 0 node.children).filterMap node.outermostCommentAt? =
            node.children.flatMap fun child =>
              child.paths.filterMap fun rest =>
                if isCommentKind node.kind then none else child.outermostCommentAt? rest := by
        apply filterMap_pathsFrom
        intro index child rest hchild
        rw [Nat.zero_add]
        exact outermostCommentAt?_cons hchild rest
      rw [outermostComments_eq, paths_eq, List.filterMap_cons, outermostCommentAt?_nil, hbelow]
      by_cases hcomment : isCommentKind node.kind
      · simp [hcomment]
      · simp only [hcomment, Bool.false_eq_true, if_false]
        rw [outermostCommentsAll_eq_flatMap]
        exact List.flatMap_congr ih

end Node

/-! ## One comment for each end -/

namespace CommentIndex

theorem addMissing_distinct
    {comments : List Comment} (hdistinct : comments.Pairwise fun a b => a.stop ≠ b.stop)
    (comment : Comment) :
    (addMissing comments comment).Pairwise fun a b => a.stop ≠ b.stop := by
  unfold addMissing
  split
  · exact hdistinct
  · next hmissing =>
    rw [List.pairwise_append]
    refine ⟨hdistinct, List.pairwise_singleton _ _, ?_⟩
    intro other hother added hadded hsame
    rw [List.mem_singleton] at hadded
    subst hadded
    apply hmissing
    rw [List.any_eq_true]
    exact ⟨other, hother, by simp [hsame]⟩

theorem foldl_addMissing_distinct
    {comments : List Comment} (hdistinct : comments.Pairwise fun a b => a.stop ≠ b.stop)
    (others : List Comment) :
    (others.foldl addMissing comments).Pairwise fun a b => a.stop ≠ b.stop := by
  induction others generalizing comments with
  | nil => exact hdistinct
  | cons comment others ih => exact ih (addMissing_distinct hdistinct comment)

theorem find?_addMissing (comments : List Comment) (comment : Comment) (stop : Nat) :
    (addMissing comments comment).find? (·.stop = stop) =
      (comments.find? (·.stop = stop)).or ([comment].find? (·.stop = stop)) := by
  unfold addMissing
  split
  · next hknown =>
    by_cases hstop : comment.stop = stop
    · -- A comment that ends there is known, so the new one does not matter.
      have hfound : (comments.find? (·.stop = stop)).isSome := by
        rw [List.find?_isSome]
        simpa [hstop] using hknown
      rw [Option.or_of_isSome hfound]
    · simp [hstop]
  · rw [List.find?_append]

/-- With each end goes the comment that was there, or else the first one added. -/
theorem find?_foldl_addMissing (comments others : List Comment) (stop : Nat) :
    (others.foldl addMissing comments).find? (·.stop = stop) =
      (comments.find? (·.stop = stop)).or (others.find? (·.stop = stop)) := by
  induction others generalizing comments with
  | nil => simp
  | cons comment others ih =>
      rw [List.foldl_cons, ih, find?_addMissing, Option.or_assoc, ← List.find?_append]
      rfl

theorem filter_stop
    {comments : List Comment} (hdistinct : comments.Pairwise fun a b => a.stop ≠ b.stop)
    (stop : Nat) :
    comments.filter (·.stop = stop) = (comments.find? (·.stop = stop)).toList := by
  induction comments with
  | nil => rfl
  | cons comment comments ih =>
      obtain ⟨hothers, hdistinct⟩ := List.pairwise_cons.mp hdistinct
      by_cases hstop : comment.stop = stop
      · have hnone : comments.filter (·.stop = stop) = [] := by
          rw [List.filter_eq_nil_iff]
          intro other hother
          have hne := hothers other hother
          simp only [decide_eq_true_eq]
          omega
        simp [hstop, hnone]
      · simp [hstop, ih hdistinct]

theorem find?_stop_of_mem
    {comments : List Comment} (hdistinct : comments.Pairwise fun a b => a.stop ≠ b.stop)
    {comment : Comment} (hcomment : comment ∈ comments) :
    comments.find? (·.stop = comment.stop) = some comment := by
  have hmem : comment ∈ comments.filter (·.stop = comment.stop) := by
    simp [hcomment]
  rw [filter_stop hdistinct] at hmem
  simpa using hmem

/-- Sorting comments with different ends brings the ends into a strictly increasing order. -/
theorem stops_increase
    (source : Bytes) {comments : List Comment}
    (hdistinct : comments.Pairwise fun a b => a.stop ≠ b.stop) :
    (ofComments source comments).comments.Pairwise fun a b => a.stop < b.stop := by
  have hkept : (ofComments source comments).comments.Pairwise fun a b => a.stop ≠ b.stop := by
    rw [(comments_perm source comments).pairwise_iff Ne.symm]
    exact hdistinct
  have hsorted := comments_sorted source comments
  refine (hsorted.and hkept).imp ?_
  intro a b hab
  have hle := stop_le_of_endsBefore hab.1
  have hne := hab.2
  omega

theorem find?_stop_comments
    (source : Bytes) {comments : List Comment}
    (hdistinct : comments.Pairwise fun a b => a.stop ≠ b.stop) (stop : Nat) :
    (ofComments source comments).comments.find? (·.stop = stop) =
      comments.find? (·.stop = stop) := by
  apply find?_comments
  intro a ha b hb hfirst hsecond
  rw [decide_eq_true_eq] at hfirst hsecond
  have hsame : some a = some b := by
    rw [← find?_stop_of_mem hdistinct ha, ← find?_stop_of_mem hdistinct hb, hfirst, hsecond]
  obtain rfl := Option.some.inj hsame
  simpa using endsBefore_total a a

theorem put_of_new {comments : List Comment} {comment : Comment}
    (hnew : ∀ other ∈ comments, other.stop ≠ comment.stop) :
    put comments comment = comments ++ [comment] := by
  induction comments with
  | nil => rfl
  | cons first rest ih =>
      obtain ⟨hfirst, hrest⟩ := List.forall_mem_cons.mp hnew
      rw [put, if_neg hfirst, ih hrest, List.cons_append]

/-- Comments with different ends are all kept, in their order. -/
theorem foldl_put_of_distinct {before comments : List Comment}
    (hdistinct : (before ++ comments).Pairwise fun a b => a.stop ≠ b.stop) :
    comments.foldl put before = before ++ comments := by
  induction comments generalizing before with
  | nil => simp
  | cons comment rest ih =>
      have hnew : ∀ other ∈ before, other.stop ≠ comment.stop := by
        intro other hother
        exact (List.pairwise_append.mp hdistinct).2.2 other hother comment List.mem_cons_self
      have hmoved : before ++ comment :: rest = (before ++ [comment]) ++ rest := by simp
      rw [hmoved] at hdistinct
      rw [List.foldl_cons, put_of_new hnew, ih hdistinct, hmoved]

/-- A scan gives no two comments with one end, so that keeping one comment for each end loses
none of them. -/
theorem scan_distinct
    {style : CommentStyle} (hstyle : style.SingleLine) (source : Bytes) :
    (Comment.scan style source).Pairwise fun a b => a.stop ≠ b.stop :=
  (Comment.scan_stops_increase hstyle source).imp fun hlt => Nat.ne_of_lt hlt

/-- The index of a source has its comments in the order of their ends, among them all that
the scanner finds.  With any end it has the scanner's comment, or else the one of the first
outermost comment node, and no other. -/
theorem ofSource_union
    (pack : Pack) (hpack : pack ∈ Pack.all) (source : Bytes) (root : Option Node) :
    let scanned := Comment.scan pack.comments source
    let nodes := root.elim [] fun tree => tree.paths.filterMap tree.outermostCommentAt?
    let comments := (ofSource pack.comments source root).comments
    comments.Pairwise (fun a b => a.stop < b.stop) ∧
      (∀ comment ∈ scanned, comment ∈ comments) ∧
      ∀ stop, comments.filter (·.stop = stop) =
        ((scanned.find? (·.stop = stop)).or
          ((nodes.find? (·.stop = stop)).map (·.toComment source))).toList := by
  intro scanned nodes comments
  let joined := (nodes.map (·.toComment source)).foldl addMissing scanned
  have hscanned : scanned.Pairwise fun a b => a.stop ≠ b.stop :=
    scan_distinct (Pack.comments_singleLine hpack) source
  have hcomments : comments = (ofComments source joined).comments := by
    have hnodes : root.elim [] Node.commentNodes = nodes := by
      cases root with
      | none => rfl
      | some tree => exact tree.commentNodes_eq.trans tree.outermostComments_eq_filterMap
    -- No comment of the scanner takes the place of another.
    have hbyEnd : scanned.foldl put [] = scanned := foldl_put_of_distinct hscanned
    unfold comments ofSource
    rw [hnodes]
    simp only [scanned] at hbyEnd ⊢
    rw [hbyEnd]
  have hjoined : joined.Pairwise fun a b => a.stop ≠ b.stop :=
    foldl_addMissing_distinct hscanned _
  have hincrease : comments.Pairwise fun a b => a.stop < b.stop := by
    rw [hcomments]
    exact stops_increase source hjoined
  have hfound (stop : Nat) :
      comments.filter (·.stop = stop) =
        ((scanned.find? (·.stop = stop)).or
          ((nodes.find? (·.stop = stop)).map (·.toComment source))).toList := by
    rw [filter_stop (hincrease.imp Nat.ne_of_lt), hcomments, find?_stop_comments source hjoined,
      find?_foldl_addMissing, List.find?_map]
    rfl
  refine ⟨hincrease, ?_, hfound⟩
  intro comment hcomment
  have hmem : comment ∈ comments.filter (·.stop = comment.stop) := by
    rw [hfound, find?_stop_of_mem hscanned hcomment]
    simp
  exact (List.mem_filter.mp hmem).1

/-- A block comment that the scanner finds, a node that ends with it, a node with another
node of the same end behind it, and a node below a comment node. -/
def overlapping : Node :=
  .mk ⟨0, "program", 0, 8, true, none⟩
    [.mk ⟨1, "comment", 2, 5, true, none⟩ [],
      .mk ⟨2, "line_comment", 6, 8, true, none⟩ [.mk ⟨3, "comment", 6, 7, true, none⟩ []],
      .mk ⟨4, "statement", 5, 8, true, none⟩ [.mk ⟨5, "comment", 5, 8, true, none⟩ []]]

theorem ofSource_union_overlapping :
    let source := ascii "/*a*/ bc"
    let comments := (ofSource Pack.javascript.comments source (some overlapping)).comments
    Pack.javascript ∈ Pack.all ∧
      comments.Pairwise (fun a b => a.stop < b.stop) ∧
      comments.filter (·.stop = 5) = [⟨0, 5, "/*a*/"⟩] ∧
      comments.filter (·.stop = 7) = [] ∧
      comments.filter (·.stop = 8) = [⟨6, 8, "bc"⟩] := by
  have hpack : Pack.javascript ∈ Pack.all := by decide +kernel
  intro source comments
  obtain ⟨hincrease, _, hfound⟩ :=
    ofSource_union Pack.javascript hpack source (some overlapping)
  refine ⟨hpack, hincrease, ?_, ?_, ?_⟩
  · exact (hfound 5).trans (by decide +kernel)
  · exact (hfound 7).trans (by decide +kernel)
  · exact (hfound 8).trans (by decide +kernel)

end CommentIndex
end SourceOutline
