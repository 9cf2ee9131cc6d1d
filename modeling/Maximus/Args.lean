import Mathlib.Algebra.Group.Int
import Mathlib.Algebra.Group.Nat.Basic
import Mathlib.Logic.Function.Basic

/-!
# Command-line arguments and how construction fails

`chainparams.cpp` reads its overrides from two argument managers: the `args` passed to
`CreateChainParams`, and the process-wide `gArgs`.  The `ArgsManager` class itself
(`util/system.h`) is not part of this excerpt, so it enters the model as the interface of the
queries the file makes: every theorem over an `ArgsManager` holds for every manager, whatever
its parsing rules.  `ArgsManager.ofList` is one concrete manager, a list of `-name=value`
settings, used to build concrete inputs.

Parameter construction ends early in one of two ways (`Fault`): a thrown
`std::runtime_error`, which startup reports as a configuration error, or a failed `assert`,
which aborts the process.
-/

namespace Maximus

/-- How parameter construction can end early. -/
inductive Fault where
  /-- `throw std::runtime_error(what)`. -/
  | runtimeError (what : String)
  /-- A failed `assert`. -/
  | assertFailed
  deriving DecidableEq, Repr

/-- A computation that ends with a value ran each of its steps to a value. -/
theorem Except.bind_eq_ok {ε α β : Type} {x : Except ε α} {f : α → Except ε β} {b : β} :
    x >>= f = .ok b ↔ ∃ a, x = .ok a ∧ f a = .ok b := by
  cases x <;> simp [bind, Except.bind]

/-- A computation that throws threw at its first step, or at a later one. -/
theorem Except.bind_eq_error {ε α β : Type} {x : Except ε α} {f : α → Except ε β} {e : ε} :
    x >>= f = .error e ↔ x = .error e ∨ ∃ a, x = .ok a ∧ f a = .error e := by
  cases x <;> simp [bind, Except.bind]

/-- The queries `chainparams.cpp` makes of an `ArgsManager`. -/
structure ArgsManager where
  /-- `IsArgSet(name)`. -/
  isArgSet : String → Bool
  /-- `GetArg(name, strDefault)`. -/
  getArg : String → String → String
  /-- `GetArg(name, nDefault)`, the `int64_t` overload. -/
  getIntArg : String → Int → Int
  /-- `GetBoolArg(name, fDefault)`. -/
  getBoolArg : String → Bool → Bool
  /-- `GetArgs(name)`: every value given for `name`. -/
  getArgs : String → List String
  /-- `GetDevNetName()`. -/
  getDevNetName : String

namespace ArgsManager

/-- The values given for `name` in a list of settings, in order. -/
def valuesOf (settings : List (String × String)) (name : String) : List String :=
  (settings.filter fun s => s.1 = name).map Prod.snd

/-- A manager holding the settings `-name=value` of a list; a later value of a name overrides
an earlier one, and a boolean is false exactly when its value is `0`. -/
def ofList (settings : List (String × String)) : ArgsManager where
  isArgSet name := !(valuesOf settings name).isEmpty
  getArg name d := (valuesOf settings name).getLastD d
  getIntArg name d := ((valuesOf settings name).getLast?.bind String.toInt?).getD d
  getBoolArg name d := match (valuesOf settings name).getLast? with
    | some v => v ≠ "0"
    | none => d
  getArgs name := valuesOf settings name
  getDevNetName := "devnet" ++ match (valuesOf settings "-devnet").getLast? with
    | some v => if v = "" then "" else "-" ++ v
    | none => ""

/-- The manager with no settings. -/
def empty : ArgsManager := ofList []

@[simp] theorem empty_isArgSet (name : String) : empty.isArgSet name = false := rfl

@[simp] theorem empty_getArg (name d : String) : empty.getArg name d = d := rfl

@[simp] theorem empty_getBoolArg (name : String) (d : Bool) : empty.getBoolArg name d = d := rfl

end ArgsManager

end Maximus
