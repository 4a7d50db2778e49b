import RateCard.Log.Filter
import RateCard.Text.Styled

/-!
# Log lines

The events that a filter shows, a line each. On a terminal the level has a colour and the names of
the fields are slanted; without colours a line is the plain line of its event.
-/
namespace RateCard.Log
open RateCard.Text

def Level.style : Level → Style
  | .error => .red
  | .warn => .yellow
  | .info => .green
  | .debug => .blue
  | .trace => .magenta

def Event.styled (e : Event) : Styled :=
  [(e.level.style, e.level.text), (.plain, " "), (.plain, e.message)] ++
    e.fields.flatMap fun (name, value) =>
      [(.plain, " "), (.italic, name), (.dim, "="), (.plain, value)]

/-- Without colours an event is shown as its plain line. -/
theorem Event.show_styled (e : Event) : e.styled.show false = e.line := by
  have shown (fields : List (String × String)) :
      Styled.show false (fields.flatMap fun (name, value) =>
        [(.plain, " "), (.italic, name), (.dim, "="), (.plain, value)]) =
      String.join (fields.map fun (name, value) => " " ++ name ++ "=" ++ value) := by
    induction fields with
    | nil => rfl
    | cons f fields ih => simp_all [Styled.show, String.append_assoc]
  simp only [Event.styled, Event.line, ← shown]
  simp [Styled.show, String.append_assoc]

def lines (colour : Bool) (f : Filter) (events : List Event) : String :=
  String.join ((events.filter (shows f)).map fun e => e.styled.show colour ++ "\n")

end RateCard.Log
