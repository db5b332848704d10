import Mathlib
import Toolchain.Environment.ModuleScript
import Toolchain.Proofs.Shell.Fields
import Toolchain.Proofs.Shell.Lines
import Toolchain.Shell.Run

/-!
# The words of the script

The script that asks a module system for something is one line. Whatever the name of the module
is, the shell reads the same commands from it, and it calls `module` with the name as it is.

  * `scriptLine` — the script as a line.
  * `scriptStatements` — what the script means, where `nameWords` are the words of the command
    that asks.
  * `callModule` — what is done when this command is run.

## Main statements

  * `readScript_script` — how the shell reads the script.
  * `step_askStatement` — how it runs the command that asks.
  * `name_passed` — a name cannot get out of its quotes.
-/

namespace Toolchain.ModuleScript

open Shell

/-! ## The script as a line -/

/-- A plain word of a line. -/
def plainWord (s : String) (h : IsPlain s.toList) : RawWord := ⟨s.toList, isRaw_plain h⟩

/-- A quoted text as a word of a line. -/
def quotedWord (s : List Char) : RawWord := ⟨quoteWord s, isRaw_quoteWord s⟩

theorem partsOf_plainWord (s : String) (h : IsPlain s.toList) :
    partsOf false (plainWord s h).1 = [.text false s] := by
  rw [plainWord, partsOf_plain h, String.ofList_toList]

theorem count_plainWord (s : String) (h : IsPlain s.toList) :
    (plainWord s h).1.count '\n' = 0 :=
  List.count_eq_zero.2 fun hmem => ne_of_plain (h.char hmem) rfl rfl

theorem isPlain_word (verb : ModuleVerb) : IsPlain verb.word.toList := by
  cases verb <;> decide

/-- The command that asks, with a redirection. -/
def askCommand (verb : ModuleVerb) (name : String) (redirection : Piece) : SimpleCommand where
  name := plainWord "module" (by decide)
  pieces := [.word (plainWord verb.word (isPlain_word verb)), .word (quotedWord name.toList),
    redirection]
  not_reserved := by decide
  not_assignment := by decide

/-- The command that prints a marker. -/
def markerCommand (marker : String) : SimpleCommand where
  name := plainWord "printf" (by decide)
  pieces := [.word (quotedWord (marker.toList ++ ['\\', '0']))]
  not_reserved := by decide
  not_assignment := by decide

/-- The command that dumps the environment. -/
def dumpCommand : SimpleCommand where
  name := plainWord "env" (by decide)
  pieces := [.word (plainWord "-0" (by decide))]
  not_reserved := by decide
  not_assignment := by decide

/-- The command that gives up. -/
def exitCommand : SimpleCommand where
  name := plainWord "exit" (by decide)
  pieces := [.word (plainWord "1" (by decide))]
  not_reserved := by decide
  not_assignment := by decide

/-- A descriptor that is made the same as another one. -/
def duplication (digits target : String) (hdigits : digits.toList.all Char.isDigit = true)
    (htarget : IsPlain target.toList) : Piece :=
  .duplicate digits.toList hdigits (plainWord target htarget)

/-- The line that loads or unloads a module, between two dumps. -/
def changeLine (verb : ModuleVerb) (name : String) : Line where
  first := ⟨markerCommand beforeMarker, []⟩
  others := [⟨dumpCommand, []⟩,
    ⟨askCommand verb name (duplication "" "2" (by decide) (by decide)), [exitCommand]⟩,
    ⟨markerCommand afterMarker, []⟩, ⟨dumpCommand, []⟩]

/-- The script as a line. -/
def scriptLine (verb : ModuleVerb) (name : String) : Line :=
  match verb with
  | .display => ⟨⟨askCommand verb name (duplication "2" "1" (by decide) (by decide)), []⟩, []⟩
  | _ => changeLine verb name

theorem text_askCommand (verb : ModuleVerb) (name digits target : String)
    (hdigits : digits.toList.all Char.isDigit = true) (htarget : IsPlain target.toList) :
    (askCommand verb name (duplication digits target hdigits htarget)).text =
      (invocation verb name ++ " " ++ digits ++ ">&" ++ target).toList := by
  simp [askCommand, duplication, SimpleCommand.text, piecesText, Piece.text, plainWord,
    quotedWord, invocation]

theorem text_markerCommand {marker : String} (h : '\'' ∉ marker.toList) :
    (markerCommand marker).text = ("printf '" ++ marker ++ "\\0'").toList := by
  have hquote : quoteWord (marker.toList ++ ['\\', '0']) =
      '\'' :: (marker.toList ++ ['\\', '0'] ++ ['\'']) :=
    quoteWord_of_notMem (by simp [h])
  simp [markerCommand, SimpleCommand.text, piecesText, Piece.text, plainWord, quotedWord, hquote]

theorem text_changeLine (verb : ModuleVerb) (name : String) :
    (changeLine verb name).text =
      ("printf '" ++ beforeMarker ++ "\\0'; env -0; " ++ invocation verb name
        ++ " >&2 || exit 1; printf '" ++ afterMarker ++ "\\0'; env -0").toList := by
  have hbefore := text_markerCommand (show '\'' ∉ beforeMarker.toList by decide)
  have hafter := text_markerCommand (show '\'' ∉ afterMarker.toList by decide)
  have hdump : dumpCommand.text = "env -0".toList := rfl
  have hexit : exitCommand.text = "exit 1".toList := rfl
  simp [changeLine, Line.text, Alternatives.text, text_askCommand, hbefore, hafter, hdump, hexit,
    othersText, restText]

/-- The script is written as this line. -/
theorem script_eq (verb : ModuleVerb) (name : String) :
    script verb name = String.ofList (scriptLine verb name).text := by
  rw [← String.toList_inj, String.toList_ofList]
  cases verb with
  | display =>
    simp [script, scriptLine, Line.text, Alternatives.text, text_askCommand, othersText, restText]
  | load => exact (text_changeLine .load name).symm
  | unload => exact (text_changeLine .unload name).symm

/-! ## What the script means -/

/-- The words of the command that asks. -/
def nameWords (verb : ModuleVerb) (name : String) : List Word :=
  [[.text false "module"], [.text false verb.word], partsOf false (quoteWord name.toList)]

/-- The command that asks. -/
def askStatement (verb : ModuleVerb) (name : String) (descriptor : Nat) (target : String) :
    Statement :=
  .simple 1 [] (nameWords verb name) [⟨descriptor, .duplicate, [.text false target]⟩]

/-- The command that prints a marker. -/
def markerStatement (line : Nat) (marker : String) : Statement :=
  .simple line [] [[.text false "printf"], [.text true (marker ++ "\\0")]] []

/-- A command of two plain words. -/
def plainStatement (line : Nat) (name arg : String) : Statement :=
  .simple line [] [[.text false name], [.text false arg]] []

/-- What the script means. Whatever the name is, it only stands in one word; and what follows that
word stands in a later line if there are line ends in the name. -/
def scriptStatements (verb : ModuleVerb) (name : String) : List Statement :=
  let line := 1 + (quoteWord name.toList).count '\n'
  match verb with
  | .display => [askStatement verb name 2 "1"]
  | _ =>
    [markerStatement 1 beforeMarker, plainStatement 1 "env" "-0",
      .either (askStatement verb name 1 "2") (plainStatement line "exit" "1"),
      markerStatement line afterMarker, plainStatement line "env" "-0"]

section

variable (verb : ModuleVerb) (name : String) {digits target : String}
  (hdigits : digits.toList.all Char.isDigit = true) (htarget : IsPlain target.toList)

theorem statement_askCommand :
    (askCommand verb name (duplication digits target hdigits htarget)).statement 1 =
      askStatement verb name (duplicated digits.toList) target := by
  simp [SimpleCommand.statement, askCommand, duplication, Piece.word?, Piece.redirection?,
    partsOf_plainWord, quotedWord, nameWords, askStatement, List.filterMap_cons]

theorem count_askCommand :
    (askCommand verb name (duplication digits target hdigits htarget)).text.count '\n' =
      (quoteWord name.toList).count '\n' := by
  simp [SimpleCommand.text, piecesText, askCommand, duplication, Piece.text, quotedWord,
    count_plainWord, count_digits hdigits]

end

theorem statement_markerCommand {marker : String} (h : '\'' ∉ marker.toList) (line : Nat) :
    (markerCommand marker).statement line = markerStatement line marker := by
  have hparts : partsOf false (quoteWord (marker.toList ++ ['\\', '0'])) =
      [.text true (marker ++ "\\0")] := by
    rw [partsOf_quoteWord_of_notMem (by simp [h])]
    simp
  simp [SimpleCommand.statement, markerCommand, Piece.word?, Piece.redirection?,
    partsOf_plainWord, quotedWord, hparts, markerStatement, List.filterMap_cons]

theorem statement_dumpCommand (line : Nat) :
    dumpCommand.statement line = plainStatement line "env" "-0" := by
  simp [SimpleCommand.statement, dumpCommand, Piece.word?, Piece.redirection?,
    partsOf_plainWord, plainStatement, List.filterMap_cons]

theorem statement_exitCommand (line : Nat) :
    exitCommand.statement line = plainStatement line "exit" "1" := by
  simp [SimpleCommand.statement, exitCommand, Piece.word?, Piece.redirection?,
    partsOf_plainWord, plainStatement, List.filterMap_cons]

theorem toNat?_one : "1".toNat? = some 1 := Nat.toNat?_repr 1

theorem toNat?_two : "2".toNat? = some 2 := Nat.toNat?_repr 2

theorem statements_scriptLine (verb : ModuleVerb) (name : String) :
    (scriptLine verb name).statements = scriptStatements verb name := by
  have hone : duplicated [] = 1 := rfl
  have htwo : duplicated "2".toList = 2 := by
    rw [duplicated, if_neg (by decide), String.ofList_toList, toNat?_two]
    rfl
  have hbefore := statement_markerCommand (show '\'' ∉ beforeMarker.toList by decide)
  have hafter := statement_markerCommand (show '\'' ∉ afterMarker.toList by decide)
  -- line ends stand nowhere but in the name
  obtain ⟨hbeforeLine, hafterLine, hdumpLine, hexitLine⟩ :
      (markerCommand beforeMarker).text.count '\n' = 0 ∧
        (markerCommand afterMarker).text.count '\n' = 0 ∧ dumpCommand.text.count '\n' = 0 ∧
        exitCommand.text.count '\n' = 0 := by
    decide
  have hchange : (changeLine verb name).statements =
      [markerStatement 1 beforeMarker, plainStatement 1 "env" "-0",
        .either (askStatement verb name 1 "2")
          (plainStatement (1 + (quoteWord name.toList).count '\n') "exit" "1"),
        markerStatement (1 + (quoteWord name.toList).count '\n') afterMarker,
        plainStatement (1 + (quoteWord name.toList).count '\n') "env" "-0"] := by
    simp [changeLine, Line.statements, statementsFrom, Alternatives.statement, Alternatives.text,
      eitherFrom, othersText, statement_askCommand, count_askCommand, statement_dumpCommand,
      statement_exitCommand, hone, hbefore, hafter, hbeforeLine, hafterLine, hdumpLine, hexitLine]
  cases verb with
  | display =>
    have hask := statement_askCommand .display name
      (show "2".toList.all Char.isDigit = true by decide) (show IsPlain "1".toList by decide)
    rw [htwo] at hask
    exact congrArg ([·]) hask
  | load => exact hchange
  | unload => exact hchange

/-- Whatever the name is, the shell reads these statements from the script. -/
theorem readScript_script (verb : ModuleVerb) (name : String) :
    readScript (script verb name) = { statements := scriptStatements verb name } := by
  rw [script_eq, readScript_line, statements_scriptLine]

/-- The words of the command that asks are expanded to the name as it is, in every state of the
shell. -/
theorem expandFields_nameWords (verb : ModuleVerb) (name : String) (capture : Capture) (s : State) :
    (expandFields capture (nameWords verb name)).run.run s =
      (.ok ["module", verb.word, name], s) := by
  have hmodule : StandsFor [.text false "module"] "module" _ :=
    standsFor_plain (show IsPlain "module".toList by decide)
  have hverb := standsFor_plain (isPlain_word verb)
  have hname := standsFor_quoteWord name.toList
  rw [String.ofList_toList] at hverb hname
  exact expandFields_standsFor capture
    (.cons ⟨_, hmodule⟩ (.cons ⟨_, hverb⟩ (.cons hname .nil))) s

/-- Calls `module` with a verb and a name, where a descriptor is led to where another one leads. -/
def callModule (eval : Evaluator) (verb : ModuleVerb) (name : String) (descriptor other : Nat)
    (s : State) : Flow × State :=
  let s := { s with line := 1, substituted := none, interrupted := none }
  let led := { s with process := s.process.withChannel descriptor (s.process.channel other) }
  let (flow, after) := runFields eval [] ["module", verb.word, name] led
  checkFailure (flow, restorePorts s after)

section

variable {target : String} {other : Nat} (htarget : IsPlain target.toList) (hdash : target ≠ "-")
  (hother : target.toNat? = some other)

include htarget hdash hother

theorem run_redirect (capture : Capture) (descriptor : Nat) (s : State) :
    (redirect capture ⟨descriptor, .duplicate, [.text false target]⟩).run.run s =
      (.ok (), { s with process := s.process.withChannel descriptor (s.process.channel other) }) := by
  have htext := (standsFor_plain htarget).expandText_eq capture
  rw [String.ofList_toList] at htext
  simp only [redirect, htext, pure_bind, if_neg hdash, hother]
  rfl

/-- The command that asks calls `module` with the name as it is. -/
theorem step_askStatement (eval : Evaluator) (verb : ModuleVerb) (name : String)
    (descriptor : Nat) (s : State) :
    step eval (askStatement verb name descriptor target) s =
      callModule eval verb name descriptor other s := by
  have hfields (capture : Capture) (s : State) :
      (expandFields capture (nameWords verb name)).run s =
        (.ok ["module", verb.word, name], s) := expandFields_nameWords verb name capture s
  have hredirect (capture : Capture) (s : State) :
      ([(⟨descriptor, .duplicate, [.text false target]⟩ : Redirection)].forM
        (redirect capture)).run s =
      (.ok (), { s with process := s.process.withChannel descriptor (s.process.channel other) }) :=
    run_bind_ok (run_redirect htarget hdash hother capture descriptor s)
  have hname : ["module", verb.word, name] ≠ ["exec"] := by simp
  unfold askStatement step runSimple callModule
  simp only [hfields, hredirect, if_neg hname]
  rfl

end

/-- A name cannot get out of its quotes. By the rules of quoting, a quoted text is one word, or
part of one, and no character of it is active, whatever follows. So the script has the same
commands for every name, and the one that asks calls `module` with the name as it is. -/
theorem name_passed :
    (∀ s rest : List Char,
      Quoting.bare.words none (quoteWord s) = some [s] ∧
      Quoting.bare.after (quoteWord s) = .bare ∧
      Quoting.literals (Quoting.bare.roles (quoteWord s)) = s ∧
      (∀ r ∈ Quoting.bare.roles (quoteWord s), r.2 ≠ .active) ∧
      Quoting.bare.roles (quoteWord s ++ rest) =
        Quoting.bare.roles (quoteWord s) ++ Quoting.bare.roles rest ∧
      ∀ begun, Quoting.bare.words begun (quoteWord s ++ rest) =
        Quoting.bare.words (some (begun.getD [] ++ s)) rest) ∧
    ∀ (verb : ModuleVerb) (name : String),
      readScript (script verb name) = { statements := scriptStatements verb name } ∧
      ∀ (eval : Evaluator) (s : State),
        step eval (askStatement verb name 2 "1") s = callModule eval verb name 2 1 s ∧
        step eval (askStatement verb name 1 "2") s = callModule eval verb name 1 2 s := by
  constructor
  · intro s rest
    obtain ⟨hliterals, hactive, hafter⟩ := roles_quoteWord s
    have hwords := words_quoteWord none s []
    rw [List.append_nil] at hwords
    have hroles := Quoting.roles_append .bare (quoteWord s) rest
    rw [hafter] at hroles
    exact ⟨hwords, hafter, hliterals, hactive, hroles, fun begun => words_quoteWord begun s rest⟩
  · intro verb name
    refine ⟨readScript_script verb name, fun eval s => ⟨?_, ?_⟩⟩
    · exact step_askStatement (by decide) (by decide) toNat?_one eval verb name 2 s
    · exact step_askStatement (by decide) (by decide) toNat?_two eval verb name 1 s

end Toolchain.ModuleScript
