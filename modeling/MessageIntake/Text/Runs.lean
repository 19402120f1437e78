/-!
# Classes of characters by runs

A class of characters is written as the lengths of the runs that its members and the other
characters make in the order of their code points, the others first.
-/

namespace MessageIntake.Text

/-- Whether the code point is in the class, the first run being inside it or not. -/
def inRunsFrom (inside : Bool) : Nat → List Nat → Bool
  | _, [] => inside
  | code, run :: rest => if code < run then inside else inRunsFrom (!inside) (code - run) rest

/-- **Membership** in a class that is written by its runs. -/
def inRuns (runs : List Nat) (c : Char) : Bool := inRunsFrom false c.toNat runs

example : ['a', 'b', 'c', 'd', 'e'].filter (inRuns [98, 2, 1]) = ['b', 'c', 'e'] := by decide

end MessageIntake.Text
