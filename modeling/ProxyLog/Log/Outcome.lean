import ProxyLog.Log.Notice

/-!
# Outcomes

A step of the program notices things on its way and then has a result or fails; what it noticed
before a failure is kept.

* `Outcome ε α`: the notices, in order, and the result or the failure.
* `Outcome.pure`, `Outcome.bind`: the monad; the notices of the second step follow those of the first.
* `Outcome.note n`, `Outcome.fail e`: one notice, one failure.
-/

set_option autoImplicit false

namespace ProxyLog

universe u v

/-- What a step noticed, and its result or failure. -/
structure Outcome (ε : Type v) (α : Type u) where
  notices : List Notice
  result : Except ε α
  deriving Repr

namespace Outcome

variable {ε : Type v} {α β : Type u}

/-- A result without notices. -/
def pure (a : α) : Outcome ε α := ⟨[], .ok a⟩

/-- One step after another. -/
def bind (x : Outcome ε α) (f : α → Outcome ε β) : Outcome ε β :=
  match x.result with
  | .ok a =>
    let y := f a
    ⟨x.notices ++ y.notices, y.result⟩
  | .error e => ⟨x.notices, .error e⟩

instance : Monad (Outcome ε) where
  pure := Outcome.pure
  bind := Outcome.bind

def fail (e : ε) : Outcome ε α := ⟨[], .error e⟩

def note (n : Notice) : Outcome ε PUnit := ⟨[n], .ok ⟨⟩⟩

/-- A result or failure without notices. -/
def ofExcept (x : Except ε α) : Outcome ε α := ⟨[], x⟩

/-- The same with another word for the failure. -/
def mapFault {δ : Type v} (x : Outcome ε α) (f : ε → δ) : Outcome δ α := ⟨x.notices, x.result.mapError f⟩

@[simp] theorem pure_result (a : α) : (Pure.pure a : Outcome ε α).result = .ok a := rfl
@[simp] theorem pure_notices (a : α) : (Pure.pure a : Outcome ε α).notices = [] := rfl

theorem bind_of_ok {x : Outcome ε α} {a : α} (h : x.result = .ok a) (f : α → Outcome ε β) :
    x >>= f = ⟨x.notices ++ (f a).notices, (f a).result⟩ := by
  simp [Bind.bind, bind, h]

theorem bind_of_error {x : Outcome ε α} {e : ε} (h : x.result = .error e) (f : α → Outcome ε β) :
    x >>= f = ⟨x.notices, .error e⟩ := by
  simp [Bind.bind, bind, h]

/-- What holds of the result of a step can be read off the step. -/
theorem eq_of_result {x : Outcome ε α} {a : α} {b : β} (f : α → β) (h : x.result = .ok a)
    (hmap : x.result.map f = .ok b) : f a = b := by
  rw [h] at hmap
  exact Except.ok.inj hmap

/-- The result of two steps is the second's result at the first's. -/
theorem bind_result (x : Outcome ε α) (f : α → Outcome ε β) :
    (x >>= f).result = x.result.bind fun a => (f a).result := by
  cases h : x.result with
  | ok a => rw [bind_of_ok h]; rfl
  | error e => rw [bind_of_error h]; rfl

end Outcome

end ProxyLog
