import Toolchain.Environment.Modules
import Toolchain.Environment.Mutation
import Toolchain.Environment.Session
import Toolchain.Error

/-!
# Activating an environment

An activation opens a scope for a compiler: the mutation is checked, the scope is opened,
variables are changed, and then each module is shown, the modules that it conflicts with are
unloaded, and it is loaded. Changes that a module reports are checked before any of them is
made. If a step fails the scope is closed again before the error is reported; the error
names the module of the list that was being loaded, also where unloading another one failed.
-/

namespace Toolchain

/-- A scope to be opened: the compiler that it is for, the variables to change and the
modules to load. -/
structure Activation where
  compiler : String
  mutation : Mutation := {}
  modules : List String := []
  deriving DecidableEq, Inhabited

namespace Activation

variable {σ : Type}

/-! ## Variables -/

/-- The log lines of setting variables. -/
def setLines (compiler : String) (es : List (String × String)) : List LogLine :=
  es.map fun e => ⟨.debug, compiler ++ ": set " ++ e.1 ++ "=" ++ e.2⟩

/-- The log lines of removing variables. -/
def unsetLines (compiler : String) (names : List String) : List LogLine :=
  names.map fun name => ⟨.debug, compiler ++ ": unset " ++ name⟩

/-- Changes the variables of the mutation. -/
def mutate (a : Activation) (s : Session σ) : Session σ :=
  { s with
    env := a.mutation.apply s.env
    log := (setLines a.compiler a.mutation.set.toList
      ++ unsetLines a.compiler a.mutation.unset).reverse ++ s.log }

/-! ## Modules -/

/-- The error about a module of the list. -/
def moduleError (a : Activation) (module message : String) : CompilerError :=
  .environment a.compiler module message

/-- Asks the loader on behalf of loading `module`. -/
def ask (a : Activation) (loader : Loader σ) (verb : ModuleVerb) (name module : String)
    (s : Session σ) : Except CompilerError ModuleEffect × Session σ :=
  let s := s.debug (a.compiler ++ ": module " ++ verb.word ++ " " ++ name)
  let (answer, outside) := loader verb name s.env s.outside
  (answer.mapError (a.moduleError module), { s with outside })

/-- Makes the changes of a module if all of them can be made. -/
def applyEffect (a : Activation) (module : String) (effect : ModuleEffect) (s : Session σ) :
    Except CompilerError Unit × Session σ :=
  match effect.changes.findSome? fun c => variableFault? c.1 c.2 with
  | some fault => (.error (a.moduleError module fault.message), s)
  | none => (.ok (), s.change effect.changes)

/-- Asks the loader and makes the changes that it answers. -/
def perform (a : Activation) (loader : Loader σ) (verb : ModuleVerb) (name module : String)
    (s : Session σ) : Except CompilerError Unit × Session σ :=
  match a.ask loader verb name module s with
  | (.error e, s) => (.error e, s)
  | (.ok effect, s) => a.applyEffect module effect s

/-- Unloads the modules that `module` conflicts with. -/
def unloadAll (a : Activation) (loader : Loader σ) (module : String) :
    List String → Session σ → Except CompilerError Unit × Session σ
  | [], s => (.ok (), s)
  | conflict :: rest, s =>
    let s := s.debug (a.compiler ++ ": module " ++ module ++ " conflicts with " ++ conflict)
    match a.perform loader .unload conflict module s with
    | (.error e, s) => (.error e, s)
    | (.ok _, s) => a.unloadAll loader module rest s

/-- Shows a module, unloads what it conflicts with, and loads it. -/
def loadOne (a : Activation) (loader : Loader σ) (module : String) (s : Session σ) :
    Except CompilerError Unit × Session σ :=
  match a.ask loader .display module module s with
  | (.error e, s) => (.error e, s)
  | (.ok shown, s) =>
    match a.unloadAll loader module (moduleConflicts shown.output) s with
    | (.error e, s) => (.error e, s)
    | (.ok _, s) => a.perform loader .load module module s

/-- Loads modules one after the other. -/
def loadAll (a : Activation) (loader : Loader σ) :
    List String → Session σ → Except CompilerError Unit × Session σ
  | [], s => (.ok (), s)
  | module :: rest, s =>
    match a.loadOne loader module s with
    | (.error e, s) => (.error e, s)
    | (.ok _, s) => a.loadAll loader rest s

/-! ## The scope -/

/-- Enters the scope and answers its guard. -/
def enter (a : Activation) (loader : Loader σ) (s : Session σ) :
    Except CompilerError Guard × Session σ :=
  match a.mutation.fault? with
  | some fault => (.error (.invalidConfig (a.compiler ++ ": " ++ fault.message)), s)
  | none =>
    let (guard, s) := s.enter
    match a.loadAll loader a.modules (a.mutate s) with
    | (.error e, s) => (.error e, s.leave guard)
    | (.ok _, s) => (.ok guard, s)

/-- Opens the scope and keeps it among the open ones. -/
def openScope (a : Activation) (loader : Loader σ) (s : Session σ) :
    Except CompilerError Guard × Session σ :=
  match a.enter loader s with
  | (.error e, s) => (.error e, s)
  | (.ok guard, s) => (.ok guard, s.keep guard)

end Activation

end Toolchain
