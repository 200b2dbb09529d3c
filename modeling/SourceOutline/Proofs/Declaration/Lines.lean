import SourceOutline.Proofs.Declaration.Sites
import SourceOutline.Proofs.Text.Lines

/-!
# The lines of declarations

The line of a record counts the newlines before its node.  It is the line that the
comment index finds for the node, so distances to comments are measured from it;
and it is a line of the decoded text, so the search for the declaration in that
text begins where the line begins, whatever malformed bytes stand before it.
-/

namespace SourceOutline
namespace SourceUnit

variable {unit : SourceUnit} {id : Int}

def text (unit : SourceUnit) : List Char :=
  Utf8.decode unit.source

/-- A line number is the one under which the comment index and the decoded text know
the line of an offset.  Looking it up in the text moves it to no other line, and
gives the place behind the characters of all the bytes before the line. -/
structure LineAgrees (unit : SourceUnit) (offset : Nat) (line : Int) : Prop where
  index : line = unit.comments.lineOf offset
  listed : 1 ≤ line ∧ line ≤ (Dependency.lineStarts unit.text).length
  unmoved :
    min (line - 1).toNat ((Dependency.lineStarts unit.text).length - 1) = (line - 1).toNat
  starts : ∃ start, (∀ other, unit.source.BeginsLineOf offset other ↔ other = start) ∧
    (Dependency.lineStarts unit.text)[(line - 1).toNat]? =
      some (Utf8.decode (unit.source.take start)).length ∧
    Dependency.lineStart (Dependency.lineStarts unit.text) line =
      (Utf8.decode (unit.source.take start)).length ∧
    unit.text.drop (Dependency.lineStart (Dependency.lineStarts unit.text) line) =
      Utf8.decode (unit.source.drop start)

/-- The line counted in bytes is the line counted in characters, also behind malformed bytes. -/
theorem lineAgrees_lineAt
    (hcomments : unit.comments.newlines = unit.source.newlines) (offset : Nat) :
    unit.LineAgrees offset (unit.source.lineAt offset) := by
  obtain ⟨start, hline⟩ := unit.source.exists_beginsLineOf offset
  have hbegins : ∀ other, unit.source.BeginsLineOf offset other ↔ other = start := by
    intro other
    constructor
    · intro hother
      exact hother.unique hline
    · rintro rfl
      exact hline
  have hplace :
      ((unit.source.lineAt offset : Int) - 1).toNat = unit.source.lineAt offset - 1 := by
    omega
  have hpositive : 1 ≤ unit.source.lineAt offset := Nat.le_add_left 1 _
  have hentry := hline.lineStarts_decode
  have hlisted :
      unit.source.lineAt offset - 1 < (Dependency.lineStarts unit.text).length :=
    (List.getElem?_eq_some_iff.mp hentry).1
  have hunmoved :
      min ((unit.source.lineAt offset : Int) - 1).toNat
          ((Dependency.lineStarts unit.text).length - 1) =
        ((unit.source.lineAt offset : Int) - 1).toNat := by
    omega
  have hstart :
      Dependency.lineStart (Dependency.lineStarts unit.text) (unit.source.lineAt offset) =
        (Utf8.decode (unit.source.take start)).length := by
    unfold Dependency.lineStart
    rw [hunmoved, hplace, text, hentry, Option.getD_some]
  refine ⟨?_, ?_, hunmoved, start, hbegins, ?_, hstart, ?_⟩
  · rw [CommentIndex.lineOf_eq_lineAt hcomments]
  · omega
  · rw [hplace]
    exact hentry
  · rw [hstart, text, hline.decode_eq, List.drop_left]

/-- Three ways to number lines agree, at every offset and so for every record: the
newlines counted before a node, the line table of the comments, and the lines of
the decoded text. -/
theorem lines_agree
    (source : Bytes) (root : Node) (style : CommentStyle) (vocabulary : Vocabulary)
    (limit id : Int) (fileName : String) :
    let unit := SourceUnit.ofSource source root style vocabulary limit
    let file := (unit.assemble id).file fileName
    (∀ offset, unit.LineAgrees offset (source.lineAt offset)) ∧
      List.Forall₂ (fun site record => unit.LineAgrees site.node.start record.line)
        unit.callableSites file.allFunctions ∧
      List.Forall₂ (fun node record => unit.LineAgrees node.start record.line)
        unit.classSites file.classes := by
  intro unit file
  have hoffsets : ∀ offset, unit.LineAgrees offset (source.lineAt offset) :=
    lineAgrees_lineAt rfl
  refine ⟨hoffsets, ?_, ?_⟩
  · refine (unit.allFunctions_records id fileName).imp ?_
    intro site record hrecord
    rw [functionRecord?_eq hrecord]
    exact hoffsets site.node.start
  · refine (unit.classes_records id).imp ?_
    intro node record hclass
    rw [classRecord?_eq hclass.made]
    exact hoffsets node.start

end SourceUnit
end SourceOutline
