import Mathlib
import Toolchain.Probe
import Toolchain.Proofs.Library.Names
import Toolchain.Proofs.LinkLine.Directories

/-!
# Searching directories for libraries

A directory is not listed but searched: for each library by a pattern that the names of its
files match, and more. If the search takes escaped texts literally (`Glob.Literal`), this is as
good as looking at every entry: what the pattern lets through is checked, and no file of the
library is held back, whatever characters the directory is written with.

## Main statements

  * `Glob.literal_plain` — the search of `Glob.plain` is literal.
  * `FileTree.hasLibrary_iff`, `FileTree.hasLibrary_eq_list` — searching comes to the same as
    listing.
  * `Probe.mem_implicitDirs` — the directories of a link line that are kept.
-/

namespace Toolchain

namespace Glob

/-- A path that was found is an entry of a directory. -/
structure Found (t : FileTree) (cwd : Place) (dir : Path) (name : String) (p : Path) : Prop where
  fileName : p.fileName? = some name
  status : t.status cwd p = t.status cwd (dir.entry name)

/-- Escaped texts are taken literally: in a directory that is there, the pattern of its escaped
path, a separator, an escaped text, a dot and `*` finds the entries whose names begin with this
text and a dot, and nothing else. -/
def Literal (glob : Glob) : Prop :=
  ∀ (t : FileTree) (cwd : Place) (dir : Path) (stem : String),
    t.isDir cwd dir = true → Path.IsName stem →
    ∃ found, glob.search t cwd (glob.escape dir.text ++ "/" ++ glob.escape stem ++ ".*")
        = some found ∧
      (∀ name ∈ t.list cwd dir, (stem ++ ".").toList <+: name.toList →
        ∃ p, .ok p ∈ found ∧ Found t cwd dir name p) ∧
      ∀ p, .ok p ∈ found →
        ∃ name ∈ t.list cwd dir, (stem ++ ".").toList <+: name.toList ∧ Found t cwd dir name p

/-! ## The plain search -/

theorem escapeChars_append (s r : List Char) :
    escapeChars (s ++ r) = escapeChars s ++ escapeChars r := List.flatMap_append

theorem literal?_cons {c : Char} (hc : isSpecial c = false) (rest : List Char) :
    literal? (c :: rest) = (literal? rest).map (c :: ·) := by
  conv_lhs => unfold literal?
  split
  next he => cases he
  next he =>
    rw [(List.cons.inj he).1] at hc
    cases hc
  next he =>
    cases he
    rw [hc]
    rfl

theorem literal?_escapeChars (s : List Char) : literal? (escapeChars s) = some s := by
  induction s with
  | nil => rfl
  | cons c cs ih =>
    rw [← List.singleton_append, escapeChars_append]
    by_cases hc : isSpecial c = true
    · have he : escapeChars [c] = ['[', c, ']'] := by simp [escapeChars, hc]
      rw [he]
      show (if isSpecial c then (literal? (escapeChars cs)).map (c :: ·) else none) = _
      rw [if_pos hc, ih]
      rfl
    · have he : escapeChars [c] = [c] := by simp [escapeChars, hc]
      rw [he, List.singleton_append, literal?_cons (by simpa using hc), ih]
      rfl

theorem noSlash_escapeChars {s : List Char} (h : '/' ∉ s) : '/' ∉ escapeChars s := by
  intro hs
  obtain ⟨c, hc, hm⟩ := List.mem_flatMap.1 hs
  split at hm
  · simp only [List.mem_cons, List.not_mem_nil, or_false] at hm
    rcases hm with hm | rfl | hm
    · cases hm
    · exact h hc
    · cases hm
  · rw [List.mem_singleton.1 hm] at h
    exact h hc

/-- The pattern of a directory and a text is taken apart again. -/
theorem stemIn?_pattern {dir stem : List Char} (h : '/' ∉ stem) :
    stemIn? (escapeChars dir ++ '/' :: (escapeChars stem ++ ['.', '*'])) =
      some (dir, stem ++ ['.']) := by
  have hrev : (escapeChars dir ++ '/' :: (escapeChars stem ++ ['.', '*'])).reverse =
      ('*' :: '.' :: (escapeChars stem).reverse) ++ '/' :: (escapeChars dir).reverse := by simp
  have hslash : '/' ∉ '*' :: '.' :: (escapeChars stem).reverse := by
    simpa using noSlash_escapeChars h
  have hdot : escapeChars stem ++ ['.'] = escapeChars (stem ++ ['.']) :=
    (escapeChars_append stem ['.']).symm
  unfold stemIn?
  rw [hrev, Text.cutAt_append hslash]
  simp only [List.reverse_cons, List.reverse_reverse, hdot, literal?_escapeChars]

theorem noSlash_of_mem_list {t : FileTree} {cwd : Place} {dir : Path} {name : String}
    (h : name ∈ t.list cwd dir) : '/' ∉ name.toList := by
  unfold FileTree.list at h
  split at h
  · obtain ⟨key, -, hkey⟩ := List.mem_filterMap.1 h
    unfold FileTree.childName? at hkey
    split at hkey
    next child above hrev =>
      split at hkey
      · cases hkey
        have hmem : name ∈ Place.ofText key :=
          List.mem_reverse.1 (hrev ▸ List.mem_cons_self)
        obtain ⟨piece, hpiece, rfl⟩ := List.mem_map.1 (List.mem_filter.1 hmem).1
        rw [String.toList_ofList]
        exact Path.noSlash_of_mem_pieces hpiece
      · cases hkey
    · cases hkey
  · cases h

/-- A name that begins with a name and a dot is a name, if a directory has it. -/
theorem isName_of_prefix {stem name : String} (hstem : Path.IsName stem)
    (hslash : '/' ∉ name.toList) (h : (stem ++ ".").toList <+: name.toList) :
    Path.IsName name := by
  obtain ⟨rest, hrest⟩ := h
  rw [String.toList_append, List.append_assoc] at hrest
  cases hs : stem.toList with
  | nil => exact absurd hs hstem.ne_nil
  | cons c cs =>
    rw [hs] at hrest
    refine ⟨?_, ?_, ?_, hslash⟩ <;> rw [← hrest]
    · simp
    · simp
    · intro he
      obtain ⟨rfl, he⟩ := List.cons.inj he
      have hcs : cs = [] := by
        have hlen := congrArg List.length he
        rw [List.length_append, List.length_append] at hlen
        simp at hlen
        exact List.length_eq_zero_iff.1 (by omega)
      exact hstem.ne_current (by rw [hs, hcs])

theorem fileName?_entry (dir : Path) {name : String} (h : Path.IsName name) :
    (dir.entry name).fileName? = some name := by
  refine Path.fileName?_eq_some.2 ⟨Path.upTo dir.text.toList, ?_⟩
  unfold Path.components Path.entry
  rw [String.toList_append, String.toList_append, List.append_assoc]
  show Path.componentsOf (dir.text.toList ++ '/' :: name.toList) = _
  rw [Path.componentsOf_eq_upTo, Path.innerOf_name h]

theorem text_ne_empty_of_isDir {t : FileTree} {cwd : Place} {dir : Path}
    (h : t.isDir cwd dir = true) : dir.text ≠ "" := by
  rintro he
  have hlocate : t.locate true cwd dir = .error .notFound := by
    unfold FileTree.locate
    rw [he]
    rfl
  unfold FileTree.isDir FileTree.status at h
  rw [hlocate] at h
  cases h

/-- What `plain` finds with the pattern of a directory and a text. -/
theorem search_plain {t : FileTree} {cwd : Place} {dir : Path} {stem : String}
    (hstem : '/' ∉ stem.toList) :
    plain.search t cwd (plain.escape dir.text ++ "/" ++ plain.escape stem ++ ".*") =
      some (entriesFrom t cwd dir (stem ++ ".").toList) := by
  have hpattern : (plain.escape dir.text ++ "/" ++ plain.escape stem ++ ".*").toList =
      escapeChars dir.text.toList ++ '/' :: (escapeChars stem.toList ++ ['.', '*']) := by
    simp [plain]
  have hsearch : plain.search = plainSearch := rfl
  rw [hsearch, plainSearch, hpattern, stemIn?_pattern hstem, Option.map_some]
  simp only [String.ofList_toList, String.toList_append]
  rfl

theorem mem_entriesFrom {t : FileTree} {cwd : Place} {dir : Path} {stem : List Char}
    (hdir : dir.text ≠ "") {e : Except FileFault Path} :
    e ∈ entriesFrom t cwd dir stem ↔
      ∃ name ∈ t.list cwd dir, stem <+: name.toList ∧ .ok (dir.entry name) = e := by
  unfold entriesFrom
  rw [if_neg hdir, List.mem_map]
  simp only [List.mem_filter, List.isPrefixOf_iff_prefix, and_assoc]

/-- The search of `plain` is literal. -/
theorem literal_plain : plain.Literal := by
  intro t cwd dir stem hdir hstem
  have hne := text_ne_empty_of_isDir hdir
  refine ⟨_, search_plain hstem.no_slash, fun name hname hpre => ?_, fun p hp => ?_⟩
  · have hn := isName_of_prefix hstem (noSlash_of_mem_list hname) hpre
    exact ⟨dir.entry name, (mem_entriesFrom hne).2 ⟨name, hname, hpre, rfl⟩,
      fileName?_entry dir hn, rfl⟩
  · obtain ⟨name, hname, hpre, he⟩ := (mem_entriesFrom hne).1 hp
    cases he
    have hn := isName_of_prefix hstem (noSlash_of_mem_list hname) hpre
    exact ⟨name, hname, hpre, fileName?_entry dir hn, rfl⟩

end Glob

namespace FileTree

theorem isFile_of_found {t : FileTree} {cwd : Place} {dir p : Path} {name : String}
    (h : Glob.Found t cwd dir name p) : t.isFile cwd p = t.isFile cwd (dir.entry name) := by
  unfold isFile
  rw [h.status]

theorem prefix_of_libraryName {lib name : String} (h : LibraryName lib name) :
    (lib ++ ".").toList <+: name.toList := by
  obtain ⟨ending, he, -⟩ := LibraryName.iff_ending.1 h
  exact ⟨ending, by rw [he, String.toList_append]; rfl⟩

/-- Searching a directory comes to the same as looking at every entry. -/
theorem hasLibrary_iff {glob : Glob} (hglob : glob.Literal) {t : FileTree} {cwd : Place}
    {dir : Path} (hdir : t.isDir cwd dir = true) {libs : List String}
    (hlibs : ∀ lib ∈ libs, Path.IsName lib) :
    t.hasLibrary cwd dir libs glob = true ↔
      ∃ name ∈ t.list cwd dir, t.isFile cwd (dir.entry name) = true ∧
        ∃ lib ∈ libs, LibraryName lib name := by
  unfold hasLibrary
  rw [List.any_eq_true]
  constructor
  · rintro ⟨lib, hlib, h⟩
    obtain ⟨found, hfound, -, hsound⟩ := hglob t cwd dir lib hdir (hlibs lib hlib)
    rw [hfound] at h
    obtain ⟨e, he, h⟩ := List.any_eq_true.1 h
    cases e with
    | error fault => cases h
    | ok p =>
      -- what was found is an entry, and its name is checked
      obtain ⟨name, hname, -, hp⟩ := hsound p he
      unfold foundLibrary at h
      rw [Bool.and_eq_true, hp.fileName, isFile_of_found hp] at h
      exact ⟨name, hname, h.1, lib, hlib, isLibraryFile_iff.1 h.2⟩
  · rintro ⟨name, hname, hfile, lib, hlib, h⟩
    obtain ⟨found, hfound, hcomplete, -⟩ := hglob t cwd dir lib hdir (hlibs lib hlib)
    -- every name of a library begins as the pattern asks
    obtain ⟨p, hmem, hp⟩ := hcomplete name hname (prefix_of_libraryName h)
    refine ⟨lib, hlib, ?_⟩
    rw [hfound]
    refine List.any_eq_true.2 ⟨_, hmem, ?_⟩
    unfold foundLibrary
    rw [Bool.and_eq_true, hp.fileName, isFile_of_found hp]
    exact ⟨hfile, isLibraryFile_iff.2 h⟩

/-- The same as a function of the entries. -/
theorem hasLibrary_eq_list {glob : Glob} (hglob : glob.Literal) {t : FileTree} {cwd : Place}
    {dir : Path} (hdir : t.isDir cwd dir = true) {libs : List String}
    (hlibs : ∀ lib ∈ libs, Path.IsName lib) :
    t.hasLibrary cwd dir libs glob =
      (t.list cwd dir).any fun name =>
        t.isFile cwd (dir.entry name) && libs.any (isLibraryFile name) := by
  rw [Bool.eq_iff_iff, hasLibrary_iff hglob hdir hlibs, List.any_eq_true]
  refine exists_congr fun name => and_congr_right fun _ => ?_
  rw [Bool.and_eq_true, List.any_eq_true]
  exact and_congr_right fun _ =>
    exists_congr fun lib => and_congr_right fun _ => isLibraryFile_iff.symm

end FileTree

namespace Probe

theorem isName_runtimeLibs (c : Compiler) : ∀ lib ∈ runtimeLibs c, Path.IsName lib := by
  unfold runtimeLibs
  cases c.family <;> decide

/-- The directories that a driver adds by itself are exactly those on its link line that are
there and hold a regular file, or a link to one, that has a name of one of the runtime
libraries. Whatever the directories are called, searching them by escaped patterns loses
nothing and adds nothing to what listing them gives. -/
theorem mem_implicitDirs {glob : Glob} (hglob : glob.Literal) (t : FileTree) (cwd : Place)
    (c : Compiler) (printed : String) :
    (∀ d, d ∈ implicitDirs t cwd c printed glob ↔
      d ∈ linkDirs printed ∧ t.isDir cwd d = true ∧
        ∃ name ∈ t.list cwd d, t.isFile cwd (d.entry name) = true ∧
          ∃ lib ∈ c.family.requiredLibs ++ ["libc", "libc++", "libstdc++"],
            LibraryName lib name) ∧
    ∀ dir, t.isDir cwd dir = true →
      t.hasLibrary cwd dir (runtimeLibs c) glob =
        (t.list cwd dir).any fun name =>
          t.isFile cwd (dir.entry name) && (runtimeLibs c).any (isLibraryFile name) := by
  refine ⟨fun d => ?_, fun dir hdir =>
    FileTree.hasLibrary_eq_list hglob hdir (isName_runtimeLibs c)⟩
  unfold implicitDirs FileTree.dirsWithLibrary
  rw [Path.mem_collect_iff fun p hp q hq =>
    linkDirs_eq_of_same (List.mem_of_mem_filter hp) (List.mem_of_mem_filter hq), List.mem_filter,
    Bool.and_eq_true]
  refine and_congr_right fun _ => and_congr_right fun hdir => ?_
  exact FileTree.hasLibrary_iff hglob hdir (isName_runtimeLibs c)

/-- A directory whose name is full of pattern characters, with a link to a library, and one
with a file that is only called almost like a library. -/
def patternTree : FileTree where
  nodes := Dict.ofList
    [("/opt", .directory 0o755), ("/opt/gcc[13]*?", .directory 0o755),
     ("/opt/gcc[13]*?/real", .file 0o644 []), ("/opt/gcc[13]*?/libgcc.so.1.0", .link "real"),
     ("/opt/spec", .directory 0o755), ("/opt/spec/libgcc.spec", .file 0o644 [])]

/-- A line that names both. -/
def patternLine : LinkLine where
  lead := ""
  tokens := [(.word "ld", " "), (.bare "/opt/gcc[13]*?", " "), (.bare "/opt/spec/", "")]

/-- The one is kept and the other is not. -/
theorem implicitDirs_patternTree :
    let c := Compiler.new ⟨"gcc", ⟨"13", [13]⟩⟩ "linux"
    Path.mk "/opt/gcc[13]*?" ∈ implicitDirs patternTree [] c patternLine.text ∧
      Path.mk "/opt/spec" ∉ implicitDirs patternTree [] c patternLine.text := by
  intro c
  obtain ⟨hmem, -⟩ := mem_implicitDirs Glob.literal_plain patternTree [] c patternLine.text
  constructor
  · have hlink : Path.mk "/opt/gcc[13]*?" ∈ linkDirs patternLine.text := by
      rw [mem_linkDirs, LinkLine.mem_namedDirs (by decide), ← isSystemDir_iff]
      exact ⟨⟨"/opt/gcc[13]*?", by decide, by decide⟩, by decide⟩
    have hlist : patternTree.list [] ⟨"/opt/gcc[13]*?"⟩ = ["libgcc.so.1.0", "real"] := by cbv
    have hname : LibraryName "libgcc" ("libgcc" ++ ".so." ++ joined "." ["1", "0"]) :=
      .versioned (by decide) (by decide)
    rw [hmem]
    refine ⟨hlink, by cbv, "libgcc.so.1.0", ?_, by cbv, "libgcc", by decide, hname⟩
    rw [hlist]
    exact List.mem_cons_self
  · have hlist : patternTree.list [] ⟨"/opt/spec"⟩ = ["libgcc.spec"] := by cbv
    have hnone : ∀ lib ∈ runtimeLibs c, isLibraryFile "libgcc.spec" lib = false := by decide
    rw [hmem, hlist]
    rintro ⟨-, -, name, hname, -, lib, hlib, h⟩
    rw [List.mem_singleton.1 hname, ← isLibraryFile_iff, hnone lib hlib] at h
    cases h

end Probe

end Toolchain
