import SourceOutline.Files.Path
import SourceOutline.Log.Journal
import SourceOutline.Text.Markup
import SourceOutline.Text.Wrap

/-!
# Words for the person at the terminal

Status lines begin with a marker that tells how things stand.  A progress bar is
drawn only on a terminal, and only when there is enough to do for the bar to be
seen; while it is live the standard streams get no log lines.
-/

namespace SourceOutline
namespace Console

/-- The markers of status lines by style, marked up. -/
def markers : List (String × String) :=
  [("success", "[green]✓[/green]"), ("error", "[red]✗[/red]"), ("warning", "[yellow]![/yellow]"),
    ("info", " ")]

def width : Nat := 80

def fitted (text : List Char) : String :=
  let lines := (Text.split '\n' text).flatMap (Text.wrap width)
  String.intercalate "\n" (lines.map String.ofList)

/-- A status line.  The message is marked up, and a style without a marker leaves
it as it is. -/
def statusLine (message style : String) (indent : Int) : Except Markup.Fault String :=
  let line :=
    match markers.lookup style with
    | some marker => marker ++ " " ++ message
    | none => message
  (Markup.shown ("".pushn ' ' indent.toNat ++ line).toList).map fitted

def statusEvent (message style : String) : Event :=
  ⟨.debug, "status", [("message", .text message), ("style", .text style)]⟩

/-- A count with the word for what is counted.  An empty plural counts as none,
and then the plural ends in `s`. -/
def pluralize (count : Int) (singular : String) (plural : Option String) : String :=
  let word :=
    if count = 1 then singular
    else
      match plural with
      | some word => if word.isEmpty then singular ++ "s" else word
      | none => singular ++ "s"
  toString count ++ " " ++ word

/-- How many items make a progress bar worth drawing. -/
def leastForBar : Nat := 50

/-- What a progress bar is asked to do. -/
structure Progress (α : Type) where
  items : List α
  description : String := "Working"
  /-- Whether the number of items is known beforehand. -/
  sized : Bool := true
  /-- Whether lines go to a terminal. -/
  terminal : Bool := false
  /-- Whether a bar is drawn for a few items, too. -/
  force : Bool := false
  /-- Whether the present item is named in the bar. -/
  labelled : Bool := false
  /-- The number of items after which nothing more is asked for. -/
  stopAfter : Option Nat := none

/-- What came of it: the items with a mark for those that came while the bar was
live, the items that were named in the bar, and the events. -/
structure Shown (α : Type) where
  seen : List (α × Bool)
  labels : List α
  events : List Event

namespace Progress

variable {α : Type}

def hasBar (progress : Progress α) : Bool :=
  progress.sized && progress.terminal &&
    (progress.force || leastForBar ≤ progress.items.length)

def asked (progress : Progress α) : List α :=
  match progress.stopAfter with
  | none => progress.items
  | some n => progress.items.take n

def isFinished (progress : Progress α) : Bool :=
  match progress.stopAfter with
  | none => true
  | some n => progress.items.length < n

def done (progress : Progress α) : Event :=
  ⟨.debug, "progress_done",
    [("desc", .text progress.description), ("total", .int progress.items.length)]⟩

/-- Hands out the items, with a bar if one is drawn. -/
def run (progress : Progress α) : Shown α :=
  let bar := progress.hasBar
  { seen := progress.asked.map fun item => (item, bar)
    labels := if bar && progress.labelled then progress.asked else []
    events := if bar && progress.isFinished then [progress.done] else [] }

end Progress
end Console

namespace Journal

/-- Writes a line that is no entry of the log. -/
def print (journal : Journal) (destination line : String) : Journal :=
  { journal with delivered := journal.delivered ++ [⟨destination, line⟩] }

/-- Shows a status line and tells the event that goes with it. -/
def status (library : LogLibrary) (journal : Journal) (time message style : String) :
    Except Markup.Fault Journal :=
  (Console.statusLine message style 0).map fun line =>
    (journal.print "stderr" line).tell library time [Console.statusEvent message style]

end Journal
end SourceOutline
