import Tablewright.Console.Markup
import Tablewright.Session.World

/-!
# Printing on the console

The console is eighty cells wide and shows no styles. It looks up the styles all the same, and only
there finds a colour whose components are no numbers in the parameters of a tag.
-/

namespace Tablewright

/-- The width of the console. -/
def consoleWidth : Nat := 80

/-- Whether a span is part of what is shown in some lines. In a text that is shown as it stands it
may be empty, or lie before what is cut off at the end; else it must hold more than line ends. -/
def Markup.Span.isShown (text : List Char) (lines : List (List Char)) (s : Span) : Bool :=
  match lines with
  | [line] =>
    if line.length < text.length then decide (s.start < line.length)
    else text.length = line.length || decide (s.start < s.stop)
  | _ => ((text.take s.stop).drop s.start).any (· != '\n')

/-- The lines in which the console shows a text with markup. -/
def consoleLines (s : String) : Except Fault (List String) := do
  let styled ← Markup.read s
  let lines := Layout.wrap consoleWidth styled.text
  for span in styled.spans.filter (·.isShown styled.text lines) do
    let _ ← Style.read? span.style
  pure (lines.map String.ofList)

/-- Prints a text with markup. -/
def Action.print (s : String) : Action Unit := do
  let lines ← consoleLines s
  modifyWorld fun w => { w with output := w.output ++ lines }

end Tablewright
