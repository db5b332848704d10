import Toolchain.Path

/-!
# Link lines

A driver that shows its link line names directories as `-Ldir`, `"-Ldir"` or `-L"dir"`. Such
an argument begins at the start of the text or after a blank. Without quotes it ends before
the next blank or quote, in quotes at the closing one; a directory is not empty.

`linkDirs` collects the directories, with `.` and `..` resolved by name, and leaves out those
that every loader searches anyway (`isSystemDir`).
-/

namespace Toolchain

namespace Text

/-! ## Arguments -/

/-- A directory up to the closing quote, and what follows the quote. -/
def quotedDir? (s : List Char) : Option (List Char × List Char) :=
  match s.takeWhile (· ≠ '"'), s.dropWhile (· ≠ '"') with
  | d :: ds, _ :: rest => some (d :: ds, rest)
  | _, _ => none

/-- A character of a directory without quotes. -/
def isBareDirChar (c : Char) : Bool := !isBlank c && c != '"'

/-- A directory without quotes, and what follows it. -/
def bareDir? (s : List Char) : Option (List Char × List Char) :=
  match s.takeWhile isBareDirChar with
  | [] => none
  | d :: ds => some (d :: ds, s.dropWhile isBareDirChar)

/-- The directory of an argument at the beginning of a text, and what follows it. -/
def linkDir? (s : List Char) : Option (List Char × List Char) :=
  match s with
  | '"' :: '-' :: 'L' :: rest => quotedDir? rest
  | '-' :: 'L' :: '"' :: rest => quotedDir? rest
  | '-' :: 'L' :: rest => bareDir? rest
  | _ => none

theorem length_dropWhile_le {α : Type} (p : α → Bool) (s : List α) :
    (s.dropWhile p).length ≤ s.length := (List.dropWhile_sublist p).length_le

theorem quotedDir?_length {s d rest : List Char} (h : quotedDir? s = some (d, rest)) :
    rest.length < s.length := by
  unfold quotedDir? at h
  split at h
  · rename_i a as b bs _ hd
    have := length_dropWhile_le (· ≠ '"') s
    simp only [Option.some.injEq, Prod.mk.injEq] at h
    rw [hd, h.2] at this
    simp only [List.length_cons] at this
    omega
  · cases h

theorem bareDir?_length {s d rest : List Char} (h : bareDir? s = some (d, rest)) :
    rest.length ≤ s.length := by
  unfold bareDir? at h
  split at h
  · cases h
  · simp only [Option.some.injEq, Prod.mk.injEq] at h
    rw [← h.2]
    exact length_dropWhile_le _ _

/-- An argument takes something of the text. -/
theorem linkDir?_length {s d rest : List Char} (h : linkDir? s = some (d, rest)) :
    rest.length < s.length := by
  unfold linkDir? at h
  split at h
  · have := quotedDir?_length h; simp only [List.length_cons]; omega
  · have := quotedDir?_length h; simp only [List.length_cons]; omega
  · have := bareDir?_length h; simp only [List.length_cons]; omega
  · cases h

/-! ## The text -/

/-- The directories of the arguments in a text; `start` says whether this is the start of
the whole text. -/
def linkArgs (start : Bool) (s : List Char) : List (List Char) :=
  match s with
  | [] => []
  | c :: cs =>
    match _h : if start then linkDir? (c :: cs) else none with
    | some (d, rest) => d :: linkArgs false rest
    | none =>
      match _h' : if isBlank c then linkDir? cs else none with
      | some (d, rest) => d :: linkArgs false rest
      | none => linkArgs false cs
termination_by s.length
decreasing_by
  · split at _h
    · exact linkDir?_length _h
    · cases _h
  · split at _h'
    · have := linkDir?_length _h'; simp only [List.length_cons]; omega
    · cases _h'
  · simp

end Text

/-! ## Directories -/

/-- Directories that every loader searches. -/
def systemDirs : List Path :=
  ["/lib", "/lib32", "/lib64", "/usr/lib", "/usr/lib32", "/usr/lib64", "/usr/local/lib",
   "/usr/local/lib64"].map Path.mk

/-- Whether the last component of a path names a platform, as `x86_64-linux-gnu` does. -/
def namesPlatform (p : Path) : Bool :=
  match p.fileName? with
  | some name => Text.occursIn "-linux-".toList name.toList
  | none => false

/-- Whether a directory is one that every loader searches, or the directory of a platform
in one. -/
def isSystemDir (dir : Path) : Bool :=
  systemDirs.any fun sys =>
    dir.same sys ||
      ((match dir.parent? with
        | some parent => parent.same sys
        | none => false) && namesPlatform dir)

/-- The directories that a link line names, without those that are searched anyway, in path
order. -/
def linkDirs (output : String) : List Path :=
  Path.collect
    (((Text.linkArgs true output.toList).map fun d => (Path.mk (String.ofList d)).normalize).filter
      fun dir => !isSystemDir dir)

end Toolchain
