namespace CondDoc

structure Options where
  /-- Unknown variables and comparisons across kinds fail instead of being false. -/
  strict : Bool := false
  /-- Texts are compared as they are and not in lower case. -/
  caseSensitive : Bool := false
  /-- The most blocks that may be open at once. -/
  maxNesting : Nat := 10
  /-- Directives count inside fenced code too. -/
  parseFences : Bool := false
  maxNesting_pos : 0 < maxNesting := by decide
  deriving DecidableEq

/-- Lenient, blind to case, ten blocks deep, and with fenced code left alone. -/
def Options.standard : Options := {}

end CondDoc
