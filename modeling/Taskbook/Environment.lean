/-
Environments: the named values that a command starts with.

The bindings are kept in the order of their names, each name once, so an
environment has one form and two environments with the same values are equal.
Setting a value replaces the one it had. An environment is extended by setting
the values of another on top of it, which therefore win.
-/
set_option autoImplicit false

namespace Taskbook

/-- Named values, in the order of their names. -/
structure Environment where
  bindings : List (String × String) := []
  deriving DecidableEq, Repr

namespace Environment

/-- The bindings with `name` set to `value`, in its place in the order. -/
def insert (name value : String) : List (String × String) → List (String × String)
  | [] => [(name, value)]
  | (n, v) :: rest =>
    if name = n then (name, value) :: rest
    else if name < n then (name, value) :: (n, v) :: rest
    else (n, v) :: insert name value rest

/-- The environment with `name` set to `value`. -/
def set (name value : String) (environment : Environment) : Environment :=
  ⟨insert name value environment.bindings⟩

/-- The environment without `name`. -/
def unset (name : String) (environment : Environment) : Environment :=
  ⟨environment.bindings.filter fun binding => binding.1 != name⟩

/-- The value of `name`. -/
def get? (name : String) (environment : Environment) : Option String :=
  environment.bindings.lookup name

/-- No value is set. -/
def isEmpty (environment : Environment) : Bool :=
  environment.bindings.isEmpty

/-- `environment` with the values of `overrides` on top. -/
def extend (environment overrides : Environment) : Environment :=
  overrides.bindings.foldl (fun result binding => result.set binding.1 binding.2) environment

/-- The environment of the given bindings, later ones on top. -/
def ofList (bindings : List (String × String)) : Environment :=
  bindings.foldl (fun result binding => result.set binding.1 binding.2) {}

end Environment

end Taskbook
