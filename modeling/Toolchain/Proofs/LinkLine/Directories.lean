import Toolchain.Proofs.LinkLine.Tokens
import Toolchain.Proofs.Path.Order
import Toolchain.Proofs.Path.Spelling
import Toolchain.Proofs.Text.Trim

/-!
# The directories of a link line

`linkDirs` gives a set: the directories that the tokens of a line name, normalized, without
those that every loader searches. Where a token stands, how often, in which quotes and how its
directory is spelled makes no difference.

## Main statements

  * `isSystemDir_iff` — the system directories, by their components.
  * `mem_linkDirs` — what is in the set, for any text.
  * `linkDirs_line` — what it is for a line of tokens, and that nothing else matters.
-/

namespace Toolchain

/-! ## System directories -/

/-- A directory that every loader searches, or the one of a platform in it. -/
def SystemDir (dir : Path) : Prop :=
  ∃ sys ∈ systemDirs, dir.components = sys.components ∨
    ∃ name, dir.components = sys.components ++ [.normal name] ∧
      "-linux-".toList <:+: name.toList

theorem namesPlatform_iff {p : Path} :
    namesPlatform p = true ↔
      ∃ cs name, p.components = cs ++ [.normal name] ∧ "-linux-".toList <:+: name.toList := by
  unfold namesPlatform
  split
  next name he =>
    obtain ⟨cs, hcs⟩ := Path.fileName?_eq_some.1 he
    rw [Text.occursIn_iff]
    constructor
    · intro h
      exact ⟨cs, name, hcs, h⟩
    · rintro ⟨ds, m, hds, h⟩
      obtain ⟨-, hm⟩ := List.append_inj' (hcs.symm.trans hds) rfl
      cases hm
      exact h
  next he =>
    refine ⟨fun h => (nomatch h), ?_⟩
    rintro ⟨cs, name, hcs, -⟩
    rw [Path.fileName?_eq_some.2 ⟨cs, hcs⟩] at he
    cases he

/-- The parent is a given path if and only if there is one component more. -/
theorem parent_same_iff {p q : Path} (hq : q.components ≠ []) :
    (match p.parent? with
      | some parent => parent.same q
      | none => false) = true ↔
      ∃ c, p.components = q.components ++ [c] := by
  cases hp : p.parent? with
  | none =>
    refine ⟨fun h => (nomatch h), ?_⟩
    rintro ⟨c, hc⟩
    have hlen : p.components.length ≤ 1 := by
      rcases Path.components_of_no_parent hp with h | h <;> rw [h] <;> decide
    rw [hc, List.length_append, List.length_singleton] at hlen
    exact absurd (List.length_eq_zero_iff.1 (by omega)) hq
  | some parent =>
    obtain ⟨c, hc⟩ := Path.components_parent hp
    unfold Path.same
    rw [decide_eq_true_eq, hc]
    constructor
    · intro h
      exact ⟨c, by rw [h]⟩
    · rintro ⟨d, hd⟩
      exact (List.append_inj' hd rfl).1

theorem components_systemDirs : ∀ sys ∈ systemDirs, sys.components ≠ [] := by decide

theorem isSystemDir_iff {dir : Path} : isSystemDir dir = true ↔ SystemDir dir := by
  unfold isSystemDir SystemDir
  rw [List.any_eq_true]
  refine exists_congr fun sys => and_congr_right fun hsys => ?_
  have hparent := parent_same_iff (p := dir) (components_systemDirs sys hsys)
  rw [Bool.or_eq_true, Bool.and_eq_true]
  refine or_congr decide_eq_true_iff ((and_congr hparent namesPlatform_iff).trans ⟨?_, ?_⟩)
  · rintro ⟨⟨c, hc⟩, cs, name, hcs, h⟩
    obtain ⟨-, he⟩ := List.append_inj' (hc.symm.trans hcs) rfl
    cases he
    exact ⟨name, hc, h⟩
  · rintro ⟨name, hc, h⟩
    exact ⟨⟨_, hc⟩, _, name, hc, h⟩

/-! ## The set -/

/-- The directories that the scanner finds, normalized. -/
def namedDirs (output : String) : List Path :=
  (Text.linkArgs true output.toList).map fun d => (Path.mk (String.ofList d)).normalize

theorem linkDirs_eq (output : String) :
    linkDirs output = Path.collect ((namedDirs output).filter fun dir => !isSystemDir dir) := rfl

/-- Of normalized directories no two are one path. -/
theorem namedDirs_eq_of_same {output : String} {p q : Path} (hp : p ∈ namedDirs output)
    (hq : q ∈ namedDirs output) (h : p.same q = true) : p = q := by
  obtain ⟨d, -, rfl⟩ := List.mem_map.1 hp
  obtain ⟨e, -, rfl⟩ := List.mem_map.1 hq
  exact Path.normalize_eq_of_same h

/-- What is in the set, for any text. -/
theorem mem_linkDirs {output : String} {p : Path} :
    p ∈ linkDirs output ↔ p ∈ namedDirs output ∧ ¬SystemDir p := by
  have hone : ∀ p ∈ (namedDirs output).filter (fun dir => !isSystemDir dir),
      ∀ q ∈ (namedDirs output).filter (fun dir => !isSystemDir dir),
        p.same q = true → p = q := fun p hp q hq hs =>
    namedDirs_eq_of_same (List.mem_of_mem_filter hp) (List.mem_of_mem_filter hq) hs
  rw [linkDirs_eq, Path.mem_collect_iff hone, List.mem_filter, ← isSystemDir_iff]
  simp

/-- Of the directories of a line no two are one path. -/
theorem linkDirs_eq_of_same {output : String} {p q : Path} (hp : p ∈ linkDirs output)
    (hq : q ∈ linkDirs output) (h : p.same q = true) : p = q :=
  namedDirs_eq_of_same (mem_linkDirs.1 hp).1 (mem_linkDirs.1 hq).1 h

theorem linkDirs_sorted (output : String) : (linkDirs output).Pairwise Path.Before :=
  Path.collect_sorted _

namespace LinkLine

theorem mem_namedDirs {line : LinkLine} (h : line.Proper) {p : Path} :
    p ∈ namedDirs line.text ↔ ∃ d ∈ line.dirs, p = (Path.mk d).normalize := by
  unfold namedDirs
  rw [linkArgs_line h, List.map_map]
  simp [eq_comm]

/-- Two lines name the same directories, each in any spelling. -/
def SameDirs (line other : LinkLine) : Prop :=
  (∀ d ∈ line.dirs, ∃ e ∈ other.dirs, Path.Respelled d.toList e.toList) ∧
    ∀ e ∈ other.dirs, ∃ d ∈ line.dirs, Path.Respelled d.toList e.toList

theorem linkDirs_of_sameDirs {line other : LinkLine} (hl : line.Proper) (ho : other.Proper)
    (h : line.SameDirs other) : linkDirs line.text = linkDirs other.text := by
  refine Path.eq_of_sorted_of_mem_iff (linkDirs_sorted _) (linkDirs_sorted _) fun p => ?_
  rw [mem_linkDirs, mem_linkDirs, mem_namedDirs hl, mem_namedDirs ho]
  refine and_congr_left fun _ => ⟨?_, ?_⟩
  · rintro ⟨d, hd, rfl⟩
    obtain ⟨e, he, hr⟩ := h.1 d hd
    exact ⟨e, he, Path.normalize_of_respelled hr⟩
  · rintro ⟨e, he, rfl⟩
    obtain ⟨d, hd, hr⟩ := h.2 e he
    exact ⟨d, hd, (Path.normalize_of_respelled hr).symm⟩

/-- The set that is read from a line of tokens holds exactly the directories that its tokens
name, normalized, but those that every loader searches. It is the same for every line that
names the same directories, however they are ordered, repeated, quoted, laid out and
spelled. -/
theorem linkDirs_line (line : LinkLine) (h : line.Proper) :
    (∀ p, p ∈ linkDirs line.text ↔
      (∃ d ∈ line.dirs, p = (Path.mk d).normalize) ∧ ¬SystemDir p) ∧
    (linkDirs line.text).Pairwise Path.Before ∧
    ∀ other : LinkLine, other.Proper → line.SameDirs other →
      linkDirs other.text = linkDirs line.text := by
  refine ⟨fun p => ?_, linkDirs_sorted _, fun other ho hs => (linkDirs_of_sameDirs h ho hs).symm⟩
  rw [mem_linkDirs, mem_namedDirs h]

/-- A line with two directories to keep, one of them in quotes, and one to leave out. -/
def gccLine : LinkLine where
  lead := " "
  tokens :=
    [(.word "collect2", " "), (.bare "/opt/gcc/lib64", "\n"), (.quoted "/opt/a b -L/x", "\t "),
      (.lone, " "), (.bare "/usr/lib/../lib64", "")]

/-- The same directories in another order, in other quotes and spelled differently. -/
def gccLineAgain : LinkLine where
  lead := ""
  tokens :=
    [(.inner "/opt/a b -L/x/", "\n\n"), (.bare "/usr/lib64", " "), (.word "-lgcc", " "),
      (.quoted "/opt/gcc/./lib64", " "), (.bare "/usr/lib64", " ")]

theorem sameDirs_gccLine : gccLine.SameDirs gccLineAgain := by
  have hlib : Path.IsName "lib" := ⟨by decide, by decide, by decide, by decide⟩
  have hdot : Path.Respelled "/opt/gcc/lib64".toList "/opt/gcc/./lib64".toList :=
    .symm (.dot "/opt/gcc".toList "lib64".toList)
  have hend : Path.Respelled "/opt/a b -L/x".toList "/opt/a b -L/x/".toList :=
    .symm (.slash_end (s := "/opt/a b -L/x".toList) (by decide))
  have hup : Path.Respelled "/usr/lib/../lib64".toList "/usr/lib64".toList :=
    .up "/usr".toList hlib "lib64".toList
  constructor
  · intro d hd
    have hd : d ∈ ["/opt/gcc/lib64", "/opt/a b -L/x", "/usr/lib/../lib64"] := hd
    simp only [List.mem_cons, List.not_mem_nil, or_false] at hd
    rcases hd with rfl | rfl | rfl
    · exact ⟨_, by decide, hdot⟩
    · exact ⟨_, by decide, hend⟩
    · exact ⟨_, by decide, hup⟩
  · intro e he
    have he : e ∈ ["/opt/a b -L/x/", "/usr/lib64", "/opt/gcc/./lib64", "/usr/lib64"] := he
    simp only [List.mem_cons, List.not_mem_nil, or_false] at he
    rcases he with rfl | rfl | rfl | rfl
    · exact ⟨_, by decide, hend⟩
    · exact ⟨_, by decide, hup⟩
    · exact ⟨_, by decide, hdot⟩
    · exact ⟨_, by decide, hup⟩

/-- One directory is kept and one is left out, whichever of the two lines is read. -/
theorem linkDirs_gccLine :
    Path.mk "/opt/gcc/lib64" ∈ linkDirs gccLine.text ∧
      Path.mk "/usr/lib64" ∉ linkDirs gccLine.text ∧
      linkDirs gccLineAgain.text = linkDirs gccLine.text := by
  obtain ⟨hmem, -, hsame⟩ := linkDirs_line gccLine (by decide)
  refine ⟨?_, ?_, hsame gccLineAgain (by decide) sameDirs_gccLine⟩
  · rw [hmem, ← isSystemDir_iff]
    exact ⟨⟨"/opt/gcc/lib64", by decide, by decide⟩, by decide⟩
  · rw [hmem, ← isSystemDir_iff]
    exact fun h => h.2 (by decide)

end LinkLine

end Toolchain
