import Toolchain.Error
import Toolchain.Version

/-!
# Compiler specs

A spec names a compiler: `gcc@13.2.0`. After the `@` any number of `=` may stand, which mark
an exact version, and after the version whatever a detected package adds: `gcc@=13.2.0
languages=c`. Both are dropped.

## Reading a spec

The text is trimmed and cut at its first `@`. The left side, trimmed, is the name: letters,
digits, `-` and `_`, at least one. The right side loses its `=`, and its part before the
first blank, `+`, `~`, `%` or `^` is the version. `SpecFault` lists what can be wrong, in
the order in which it is looked for.
-/

namespace Toolchain

/-- Why a text is no spec. -/
inductive SpecFault
  | missingVersion
  | emptyName
  | badName
  | emptyVersion
  | badVersion
  deriving DecidableEq, Repr

/-- The reason that a message gives. -/
def SpecFault.reason : SpecFault → String
  | .missingVersion => "missing `@<version>`"
  | .emptyName => "missing compiler name"
  | .badName => "compiler names may only contain letters, digits, `-` and `_`"
  | .emptyVersion => "missing version after `@`"
  | .badVersion => "version must start with a number"

/-- The identity of a compiler. -/
structure Spec where
  name : String
  version : Version
  deriving DecidableEq, Repr

namespace Spec

/-- A character of a compiler name. -/
def isNameChar (c : Char) : Bool := c.isAlphanum || c == '-' || c == '_'

/-- A character that ends the version. -/
def endsVersion (c : Char) : Bool :=
  Text.isBlank c || c == '+' || c == '~' || c == '%' || c == '^'

/-- The version text after the `@`. -/
def versionText (s : List Char) : List Char :=
  (s.dropWhile (· == '=')).takeWhile fun c => !endsVersion c

/-- Reads a spec, or says what is wrong first. -/
def read (text : String) : Except SpecFault Spec :=
  match Text.cutAt '@' (Text.trim text.toList) with
  | none => .error .missingVersion
  | some (before, after) =>
    let name := Text.trim before
    if name = [] then .error .emptyName
    else if name.all isNameChar = false then .error .badName
    else
      let version := versionText after
      if version = [] then .error .emptyVersion
      else match Version.parse? (String.ofList version) with
        | none => .error .badVersion
        | some v => .ok ⟨String.ofList name, v⟩

/-- Reads a spec; the error carries the text as it was given. -/
def parse (text : String) : Except CompilerError Spec :=
  match read text with
  | .ok spec => .ok spec
  | .error fault => .error (.invalidSpec text fault.reason)

/-- A spec as it is shown: name and version. -/
def text (s : Spec) : String := s.name ++ "@" ++ s.version.raw

instance : ToString Spec := ⟨text⟩

/-- Whether a query selects this compiler: by its name or by its whole spec. -/
def selectedBy (s : Spec) (query : String) : Bool :=
  match read query with
  | .ok other => other == s
  | .error _ => trimmed query == s.name

example : (read " gcc @=13.2.0 languages=c").toOption.map text = some "gcc@13.2.0" := by decide
example : read "gcc@ 4" = .error .emptyVersion := by rfl

end Spec

/-- A version that is read on its own, such as a threshold; the error carries the text
without blanks at its ends. -/
def Version.parse (text : String) : Except CompilerError Version :=
  match Version.parse? text with
  | some v => .ok v
  | none => .error (.invalidSpec (trimmed text) SpecFault.badVersion.reason)

end Toolchain
