/-!
# Kinds of faults

A fault is raised as one of some kind. Whoever asked catches the kinds that are listed, and a fault of any other
kind goes on to whoever asked before.

* `FaultKind`: the kinds.
* `Raised`: a fault as it goes on: its kind, and what is said about it.
* `catching kinds raised told escaped x`: tells the faults of `x` that are of one of the kinds; all others escape.
-/

set_option autoImplicit false

namespace ProxyLog

/-- What a fault is raised as. -/
inductive FaultKind
  /-- A value that stands for nothing. -/
  | value
  /-- A value of a type that cannot be used. -/
  | type
  /-- A number for which there is no room. -/
  | overflow
  /-- A refusal of the platform. -/
  | platform
  /-- Any other kind, by its name. -/
  | other (name : String)
  deriving DecidableEq, Repr

/-- A fault as it goes on when nobody catches it. -/
structure Raised where
  kind : FaultKind
  message : String
  deriving DecidableEq, Repr

variable {ε δ α : Type}

/-- Catches the faults of some kinds. -/
def catching (kinds : List FaultKind) (raised : ε → Raised) (told : ε → δ) (escaped : Raised → δ)
    (x : Except ε α) : Except δ α :=
  x.mapError fun e => if (raised e).kind ∈ kinds then told e else escaped (raised e)

variable {kinds : List FaultKind} {raised : ε → Raised} {told : ε → δ} {escaped : Raised → δ}

@[simp] theorem catching_ok (a : α) : catching kinds raised told escaped (.ok a) = .ok a := rfl

/-- Nothing escapes when every fault is of a kind that is caught. -/
theorem catching_eq_mapError {x : Except ε α} (h : ∀ e, x = .error e → (raised e).kind ∈ kinds) :
    catching kinds raised told escaped x = x.mapError told := by
  cases x with
  | ok a => rfl
  | error e => exact congrArg Except.error (if_pos (h e rfl))

end ProxyLog
