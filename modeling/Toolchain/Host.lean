import Toolchain.Text.Split

/-!
# The host

The machine that compilers are detected on is known by two tags: its operating system and
its target. The first is read from the release file of the system: the last `ID` in it,
followed by the last `VERSION_ID`.
-/

namespace Toolchain

/-- The tags of a machine. -/
structure Host where
  operatingSystem : String
  target : String
  deriving DecidableEq, Repr, Inhabited

/-- Both tags in one word. -/
def Host.text (h : Host) : String := h.operatingSystem ++ "-" ++ h.target

namespace Host

/-! ## Release files -/

/-- The key and the value of a line: blanks around both go, then the quotes around the
value. -/
def assignment? (line : List Char) : Option (String × String) :=
  match Text.cutAt '=' line with
  | none => none
  | some (key, value) =>
    let value := Text.trimBoth (· == '"') (Text.trim value)
    some (trimmed (String.ofList key), String.ofList (Text.trimBoth (· == '\'') value))

/-- The value of a key in the last line that assigns it. -/
def lastValue? (key : String) (assignments : List (String × String)) : Option String :=
  ((assignments.filter fun e => e.1 = key).getLast?).map Prod.snd

/-- The operating-system tag of a release file; there is none without an `ID`. -/
def releaseTag? (contents : String) : Option String :=
  let assignments := (Text.lines contents.toList).filterMap assignment?
  match lastValue? "ID" assignments with
  | none => none
  | some id =>
    if id = "" then none else some (id ++ (lastValue? "VERSION_ID" assignments).getD "")

example : releaseTag? "VERSION_ID=\"22.04\"\nID=ubuntu\nID_LIKE=debian\n" = some "ubuntu22.04" := by
  decide +kernel

/-- The host of a system with this release file, if it can be read. -/
def ofRelease (contents : Option String) (target : String) : Host :=
  ⟨(contents.bind releaseTag?).getD "linux", target⟩

end Host

end Toolchain
