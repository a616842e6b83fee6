import LookupBench.Text.Utf8

/-!
# Columns

Text filled up with blanks to a width, counted in characters. What is longer stays as it is.
-/

namespace LookupBench.Console

def blanks (n : Nat) : List Char := List.replicate n ' '

/-- Fill up on the right. -/
def padRight (width : Nat) (s : List Char) : List Char := s ++ blanks (width - s.length)

/-- Fill up on the left. -/
def padLeft (width : Nat) (s : List Char) : List Char := blanks (width - s.length) ++ s

end LookupBench.Console
