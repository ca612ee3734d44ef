import OpenSprinklerPlugin.Python.Value

/-!
# Python statements that raise

A Python exception skips the statements still to run but keeps every mutation
already made: an object halfway through its `__init__` keeps the attributes set
so far, and a list keeps the items appended before the error. `EStateM` behaves
the same way, its error result carries the state reached, so the plugin's
mutating code is written in `PyM σ := EStateM PyErr σ`.

* `PyM.lift` runs a pure computation that may raise
* `PyM.swallow` is `try: body except: pass`: the exception is dropped and the
  state it was raised in is kept
* `pyPrint`, `pyWrite` are `print(s)` and `print(s, end='')` on the text written
  so far

The `run_*` lemmas below are the only facts about `EStateM` the later files use.

Both loops of `OpenSprinklerController.__init__` have one shape, `idx = 0;
while idx < n: item = ...; xs.append(item); idx += 1`; `appendLoop` is that
shape and `run_appendLoop` its run lemma: the loop appends the items decoded
before its first exception (`appendedBefore`) and then raises it.
-/

namespace OpenSprinklerPlugin

/-- Mutating Python code over the state `σ`. -/
abbrev PyM (σ : Type) := EStateM PyErr σ

namespace PyM

variable {σ α β : Type}

/-- A pure computation that may raise, run without touching the state. -/
def lift (x : Except PyErr α) : PyM σ α := fun s =>
  match x with
  | .ok a => .ok a s
  | .error e => .error e s

/-- `try: body except: pass`. -/
def swallow (body : PyM σ Unit) : PyM σ Unit := fun s =>
  match body s with
  | .ok _ s' => .ok () s'
  | .error _ s' => .ok () s'

@[simp] theorem run_pure (a : α) (s : σ) : (pure a : PyM σ α).run s = .ok a s := rfl

theorem run_bind_of_ok {x : PyM σ α} {s s' : σ} {a : α} (f : α → PyM σ β)
    (h : x.run s = .ok a s') : (x >>= f).run s = (f a).run s' := by
  change EStateM.bind x f s = f a s'
  simp only [EStateM.bind, show x s = .ok a s' from h]

theorem run_bind_of_error {x : PyM σ α} {s s' : σ} {e : PyErr} (f : α → PyM σ β)
    (h : x.run s = .error e s') : (x >>= f).run s = .error e s' := by
  change EStateM.bind x f s = .error e s'
  simp only [EStateM.bind, show x s = .error e s' from h]

theorem run_bind (x : PyM σ α) (f : α → PyM σ β) (s : σ) :
    (x >>= f).run s =
      match x.run s with
      | .ok a s' => (f a).run s'
      | .error e s' => .error e s' := by
  cases h : x.run s with
  | ok a s' => exact run_bind_of_ok f h
  | error e s' => exact run_bind_of_error f h

/-- What running `k` after a statement that ended in `r` gives: `k` runs only
when the statement returned. -/
def andThen (r : EStateM.Result PyErr σ α) (k : α → PyM σ β) : EStateM.Result PyErr σ β :=
  match r with
  | .ok a s' => (k a).run s'
  | .error e s' => .error e s'

@[simp] theorem andThen_ok (a : α) (s : σ) (k : α → PyM σ β) :
    andThen (.ok a s) k = (k a).run s := rfl

@[simp] theorem andThen_error (e : PyErr) (s : σ) (k : α → PyM σ β) :
    andThen (.error e s : EStateM.Result PyErr σ α) k = .error e s := rfl

theorem run_bind_eq_andThen (x : PyM σ α) (f : α → PyM σ β) (s : σ) :
    (x >>= f).run s = andThen (x.run s) f := run_bind x f s

@[simp] theorem run_lift_ok (a : α) (s : σ) : (lift (.ok a) : PyM σ α).run s = .ok a s := rfl

@[simp] theorem run_lift_error (e : PyErr) (s : σ) :
    (lift (.error e) : PyM σ α).run s = .error e s := rfl

@[simp] theorem run_modify (f : σ → σ) (s : σ) :
    (modify f : PyM σ Unit).run s = .ok () (f s) := rfl

@[simp] theorem run_get (s : σ) : (get : PyM σ σ).run s = .ok s s := rfl

@[simp] theorem run_throw (e : PyErr) (s : σ) :
    (throw e : PyM σ α).run s = .error e s := rfl

/-- The state `x` leaves behind, whether it returned or raised. -/
def final {α : Type} : EStateM.Result PyErr σ α → σ
  | .ok _ s => s
  | .error _ s => s

@[simp] theorem final_ok (a : α) (s : σ) : final (.ok a s : EStateM.Result PyErr σ α) = s := rfl

@[simp] theorem final_error (e : PyErr) (s : σ) :
    final (.error e s : EStateM.Result PyErr σ α) = s := rfl

/-- `try`/`except: pass` never raises, and keeps the state the body reached. -/
theorem run_swallow (body : PyM σ Unit) (s : σ) :
    (swallow body).run s = .ok () (final (body.run s)) := by
  change swallow body s = .ok () (final (body s))
  cases h : body s <;> simp [swallow, h]

/-- The outcome of a statement that may have raised `e`, in state `s`. -/
def result (e : Option PyErr) (s : σ) : EStateM.Result PyErr σ Unit :=
  match e with
  | none => .ok () s
  | some e => .error e s

@[simp] theorem final_result (e : Option PyErr) (s : σ) : final (result e s) = s := by
  cases e <;> rfl

/-- The items a loop over the indices `idx, idx + 1, …` (`n` passes) decodes
before its first exception, and that exception. -/
def appendedBefore (decode : Nat → Except PyErr α) : Nat → Nat → List α × Option PyErr
  | _, 0 => ([], none)
  | idx, n + 1 =>
    match decode idx with
    | .error e => ([], some e)
    | .ok a => ((appendedBefore decode (idx + 1) n).1.cons a, (appendedBefore decode (idx + 1) n).2)

/-- `while idx < n: xs.append(decode(idx)); idx += 1`, from `idx`, `n` passes. -/
def appendLoop (decode : Nat → Except PyErr α) (append : α → σ → σ) : Nat → Nat → PyM σ Unit
  | _, 0 => pure ()
  | idx, n + 1 => do
    let item ← lift (decode idx)
    modify (append item)
    appendLoop decode append (idx + 1) n

/-- The loop appends what it decodes before its first exception, then raises
that exception. -/
theorem run_appendLoop (decode : Nat → Except PyErr α) (append : α → σ → σ) (idx n : Nat) (s : σ) :
    (appendLoop decode append idx n).run s =
      result (appendedBefore decode idx n).2
        ((appendedBefore decode idx n).1.foldl (fun s a => append a s) s) := by
  induction n generalizing idx s with
  | zero => rfl
  | succ n ih =>
    cases h : decode idx with
    | error e => simp [appendLoop, appendedBefore, run_bind, h, result]
    | ok a => simp [appendLoop, appendedBefore, run_bind, h, ih]

/-- When every pass decodes, the loop appends all `n` items and returns. -/
theorem appendedBefore_of_ok {decode : Nat → Except PyErr α} {item : Nat → α} {idx n : Nat}
    (h : ∀ i, idx ≤ i → i < idx + n → decode i = .ok (item i)) :
    appendedBefore decode idx n = ((List.range' idx n).map item, none) := by
  induction n generalizing idx with
  | zero => rfl
  | succ n ih =>
    have hrest := @ih (idx + 1) fun i h1 h2 => h i (by omega) (by omega)
    simp [appendedBefore, h idx le_rfl (by omega), List.range'_succ, hrest]

/-- Every item the loop appends is what some pass decoded. -/
theorem exists_decode_of_mem_appendedBefore {decode : Nat → Except PyErr α} {idx n : Nat} {a : α}
    (h : a ∈ (appendedBefore decode idx n).1) : ∃ i, decode i = .ok a := by
  induction n generalizing idx with
  | zero => simp [appendedBefore] at h
  | succ n ih =>
    cases hd : decode idx with
    | error e => simp [appendedBefore, hd] at h
    | ok b =>
      simp only [appendedBefore, hd, List.mem_cons] at h
      rcases h with rfl | h
      · exact ⟨idx, hd⟩
      · exact ih h

/-- A quantity every decoded item carries about its own index is, over the
appended items, that of the indices `idx, idx + 1, …` in order. -/
theorem map_appendedBefore {decode : Nat → Except PyErr α} {g : α → β} {f : Nat → β}
    (h : ∀ i a, decode i = .ok a → g a = f i) (idx n : Nat) :
    (appendedBefore decode idx n).1.map g =
      (List.range' idx (appendedBefore decode idx n).1.length).map f := by
  induction n generalizing idx with
  | zero => rfl
  | succ n ih =>
    cases hd : decode idx with
    | error e => simp [appendedBefore, hd]
    | ok a => simp [appendedBefore, hd, List.range'_succ, ih, h idx a hd]

end PyM

/-! ## Standard output

A method that prints runs in `PyM String`, whose state is the text written so
far. -/

/-- `print(s)`: `s` and a newline appended to the text written so far. -/
def pyPrint (s : String) : PyM String Unit := modify fun out => out ++ s ++ "\n"

/-- `print(s, end='')`. -/
def pyWrite (s : String) : PyM String Unit := modify fun out => out ++ s

@[simp] theorem run_pyPrint (s out : String) : (pyPrint s).run out = .ok () (out ++ s ++ "\n") :=
  rfl

@[simp] theorem run_pyWrite (s out : String) : (pyWrite s).run out = .ok () (out ++ s) := rfl

end OpenSprinklerPlugin
