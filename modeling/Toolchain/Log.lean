/-!
# Log lines

What a program tells about its progress. A line is kept as a value with its level; how it is
written, and whether at all, is decided where it is shown.
-/

namespace Toolchain

/-- How important a log line is. -/
inductive LogLevel
  | warning
  | info
  | debug
  deriving DecidableEq, Repr

/-- A line of a log. -/
structure LogLine where
  level : LogLevel
  text : String
  deriving DecidableEq, Repr

end Toolchain
