import Toolchain.Diagnostic
import Toolchain.Log

/-!
# The console

What a run of the program shows: results on standard output, and problems and the log on
standard error. Debug lines are only shown on request. The level of a log line is coloured
unless that is turned off; diagnostics are only coloured on a terminal.
-/

namespace Toolchain

/-! ## Log lines -/

namespace LogLevel

/-- The word for a level, five characters wide. -/
def word : LogLevel → String
  | warning => " WARN"
  | info => " INFO"
  | debug => "DEBUG"

/-- The terminal colour of a level: yellow, green or blue. -/
def colour : LogLevel → String
  | warning => "33"
  | info => "32"
  | debug => "34"

end LogLevel

/-- A character of a log message. Control characters that a terminal could obey are written
as their codes. -/
def loggedChar (c : Char) : String :=
  let code := String.ofList (Nat.toDigits 16 c.toNat)
  if c = '\x1b' ∨ c = '\x07' ∨ c = '\x08' ∨ c = '\x0c' ∨ c = '\x7f' then
    "\\x" ++ (if c.toNat < 16 then "0" else "") ++ code
  else if 0x80 ≤ c.toNat ∧ c.toNat ≤ 0x9f then "\\u\x7b" ++ code ++ "\x7d"
  else c.toString

/-- A log line as it is shown. -/
def LogLine.render (colour : Bool) (l : LogLine) : String :=
  coloured colour l.level.colour l.level.word ++ " "
    ++ String.join (l.text.toList.map loggedChar) ++ "\n"

example : (LogLine.mk .info "a\x1bb").render true = "\x1b[32m INFO\x1b[0m a\\x1bb\n" := by
  decide +kernel

/-! ## Streams -/

/-- What has been shown, and how log lines are shown. -/
structure Console where
  verbose : Bool := false
  logColour : Bool := true
  terminal : Bool := false
  stdout : String := ""
  stderr : String := ""
  deriving DecidableEq, Repr

namespace Console

/-- Shows a line of the result. -/
def say (c : Console) (line : String) : Console := { c with stdout := c.stdout ++ line ++ "\n" }

/-- Shows lines of the result. -/
def sayAll (c : Console) (lines : List String) : Console := lines.foldl say c

/-- Shows a log line, unless it is a debug line that nobody asked for. -/
def note (c : Console) (l : LogLine) : Console :=
  if l.level = .debug ∧ !c.verbose then c
  else { c with stderr := c.stderr ++ l.render c.logColour }

/-- Shows log lines. -/
def noteAll (c : Console) (ls : List LogLine) : Console := ls.foldl note c

/-- Shows a debug line. -/
def debug (c : Console) (text : String) : Console := c.note ⟨.debug, text⟩

/-- Shows a diagnostic. -/
def emit (c : Console) (d : Diagnostic) : Console :=
  { c with stderr := c.stderr ++ d.render c.terminal }

/-- Shows an error that is one text. -/
def complain (c : Console) (text : String) : Console :=
  { c with stderr := c.stderr ++ "error: " ++ text ++ "\n" }

end Console

end Toolchain
