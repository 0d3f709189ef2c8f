import Isomdl.Lib.Checked

/-!
# Memory that outlives a panic

A function that borrows memory of its caller changes it until it returns or panics.  A `guarded`
body ends with the `drop` of a guard, however it ends; where panics end the program, a
`guardedAborting` body does when it returns.
-/

namespace Checked

/-- code that changes a memory `σ`, which is left behind also where it panics -/
abbrev Effect (σ α : Type) := ExceptT Panic (StateM σ) α

namespace Effect
variable {σ τ α β : Type}

/-- how the code ends, and the memory then -/
def exec (x : Effect σ α) (s : σ) : Except Panic α × σ := x s

/-- `body`, with a guard whose `drop` runs at its end -/
def guarded (drop : σ → σ) (body : Effect σ α) : Effect σ α :=
  fun s => ((exec body s).1, drop (exec body s).2)

/-- `body`, with a guard in a build whose panics end the program: its `drop` runs where `body`
returns -/
def guardedAborting (drop : σ → σ) (body : Effect σ α) : Effect σ α :=
  fun s => ((exec body s).1, if (exec body s).1.isOk then drop (exec body s).2 else (exec body s).2)

/-- code that borrows a part of the memory -/
def borrowing (view : σ → τ) (put : σ → τ → σ) (x : Effect τ α) : Effect σ α :=
  fun s => ((exec x (view s)).1, put s (exec x (view s)).2)

/-- `step()?`, and then the rest -/
def andThen {ε : Type} (step : Except Panic (Except ε Unit)) (rest : Effect σ (Except ε α)) :
    Effect σ (Except ε α) := do
  match ← (liftM step : Effect σ (Except ε Unit)) with
  | .ok () => rest
  | .error e => return .error e

/-- `x?`, and then the rest -/
def orReturn {ε : Type} (x : Effect σ (Except ε α)) (rest : α → Effect σ (Except ε β)) :
    Effect σ (Except ε β) := do
  match ← x with
  | .ok a => rest a
  | .error e => return .error e

section
variable {x : Effect σ α} {f : α → Effect σ β} {s t : σ}

theorem exec_bindCont : exec (x >>= f) s = ExceptT.bindCont f (exec x s).1 (exec x s).2 := rfl

/-- code that returns is followed by the rest -/
theorem exec_bind {a : α} (h : exec x s = (.ok a, t)) : exec (x >>= f) s = exec (f a) t := by
  rw [exec_bindCont, h]
  rfl

/-- code that panics is not -/
theorem exec_bind_error {p : Panic} (h : exec x s = (.error p, t)) :
    exec (x >>= f) s = (.error p, t) := by
  rw [exec_bindCont, h]
  rfl

/-- a result without effects is followed by the rest, or panics -/
theorem exec_bind_lift {e : Except Panic α} {a : α} (h : e = .ok a) :
    exec ((liftM e : Effect σ α) >>= f) s = exec (f a) s := by
  rw [h]
  rfl

theorem exec_bind_lift_error {e : Except Panic α} {p : Panic} (h : e = .error p) :
    exec ((liftM e : Effect σ α) >>= f) s = (.error p, s) := by
  rw [h]
  rfl

end

@[simp] theorem exec_get (s : σ) : exec (get : Effect σ σ) s = (.ok s, s) := rfl
@[simp] theorem exec_set (s t : σ) : exec (set t : Effect σ Unit) s = (.ok (), t) := rfl

@[simp] theorem exec_modify (f : σ → σ) (s : σ) :
    exec (modify f : Effect σ Unit) s = (.ok (), f s) := rfl

@[simp] theorem exec_guarded (drop : σ → σ) (body : Effect σ α) (s : σ) :
    exec (guarded drop body) s = ((exec body s).1, drop (exec body s).2) := rfl

@[simp] theorem exec_guardedAborting (drop : σ → σ) (body : Effect σ α) (s : σ) :
    exec (guardedAborting drop body) s =
      ((exec body s).1,
        if (exec body s).1.isOk then drop (exec body s).2 else (exec body s).2) := rfl

@[simp] theorem exec_borrowing (view : σ → τ) (put : σ → τ → σ) (x : Effect τ α) (s : σ) :
    exec (borrowing view put x) s = ((exec x (view s)).1, put s (exec x (view s)).2) := rfl

section
variable {ε : Type} {step : Except Panic (Except ε Unit)} {rest : Effect σ (Except ε α)} {s : σ}

theorem exec_andThen (h : step = .ok (.ok ())) : exec (andThen step rest) s = exec rest s := by
  rw [h]
  rfl

theorem exec_andThen_error {e : ε} (h : step = .ok (.error e)) :
    exec (andThen step rest) s = (.ok (.error e), s) := by
  rw [h]
  rfl

theorem exec_andThen_panic {p : Panic} (h : step = .error p) :
    exec (andThen step rest) s = (.error p, s) := by
  rw [h]
  rfl

end

section
variable {ε : Type} {x : Effect σ (Except ε α)} {rest : α → Effect σ (Except ε β)} {s t : σ}

theorem exec_orReturn {a : α} (h : exec x s = (.ok (.ok a), t)) :
    exec (orReturn x rest) s = exec (rest a) t := exec_bind h

theorem exec_orReturn_error {e : ε} (h : exec x s = (.ok (.error e), t)) :
    exec (orReturn x rest) s = (.ok (.error e), t) := exec_bind h

theorem exec_orReturn_panic {p : Panic} (h : exec x s = (.error p, t)) :
    exec (orReturn x rest) s = (.error p, t) := exec_bind_error h

end

end Effect

end Checked
