import Mathlib

namespace RollingBudget

/-! Programs that write to a store as they go, and stores that check every write at the moment
it is made. What a program wrote before it raised counts as well. -/

/-- What a program writes, in order, and how it ends. -/
structure Logged (Write Error α : Type*) where
  writes : List Write
  result : Except Error α

namespace Logged

universe u

variable {Write Error : Type*} {α β σ τ : Type u}

def emit (writes : List Write) : Logged Write Error Unit := ⟨writes, .ok ()⟩

/-- A computation that writes nothing. -/
def lift (result : Except Error α) : Logged Write Error α := ⟨[], result⟩

def continueWith (writes : List Write) (continuation : α → Logged Write Error β) :
    Except Error α → Logged Write Error β
  | .error error => ⟨writes, .error error⟩
  | .ok value => ⟨writes ++ (continuation value).writes, (continuation value).result⟩

instance : Monad (Logged Write Error) where
  pure value := ⟨[], .ok value⟩
  bind program continuation := continueWith program.writes continuation program.result

@[simp] theorem result_pure (value : α) :
    (pure value : Logged Write Error α).result = .ok value := rfl

@[simp] theorem result_emit (writes : List Write) :
    (emit writes : Logged Write Error Unit).result = .ok () := rfl

@[simp] theorem result_lift (result : Except Error α) :
    (lift result : Logged Write Error α).result = result := rfl

@[simp] theorem result_bind (program : Logged Write Error α)
    (continuation : α → Logged Write Error β) :
    (program >>= continuation).result =
      program.result >>= fun value => (continuation value).result := by
  show (continueWith program.writes continuation program.result).result = _
  cases program.result with
  | error error => rfl
  | ok value => rfl

/-- A loop ends as the loop over what its rounds return. -/
theorem result_foldlM {step : σ → α → Logged Write Error σ} (view : σ → τ)
    (plain : τ → α → Except Error τ) (agree : ∀ state item,
      view <$> (step state item).result = plain (view state) item)
    (items : List α) (state : σ) :
    view <$> (items.foldlM step state).result = items.foldlM plain (view state) := by
  induction items generalizing state with
  | nil => rfl
  | cons item items induction =>
      rw [List.foldlM_cons, List.foldlM_cons, result_bind, ← agree]
      cases (step state item).result with
      | error error => rfl
      | ok next => exact induction next

end Logged

/-- A store that checks each write before it applies it. -/
structure GuardedStore (State Write : Type*) where
  Guards : State → Write → Prop
  apply : State → Write → State

namespace GuardedStore

universe u

variable {State Write Error : Type*} {α β σ : Type u} (store : GuardedStore State Write)

/-- The state after a list of writes. -/
def after (state : State) (writes : List Write) : State := writes.foldl store.apply state

/-- Every write passes its check in the state that the writes before it leave. -/
def Admits (state : State) : List Write → Prop
  | [] => True
  | write :: rest => store.Guards state write ∧ Admits (store.apply state write) rest

variable {store} {state : State}

@[simp] theorem after_nil : store.after state [] = state := rfl

@[simp] theorem after_cons (write : Write) (rest : List Write) :
    store.after state (write :: rest) = store.after (store.apply state write) rest := rfl

@[simp] theorem after_append (first second : List Write) :
    store.after state (first ++ second) = store.after (store.after state first) second :=
  List.foldl_append

@[simp] theorem admits_nil : store.Admits state [] := trivial

@[simp] theorem admits_cons {write : Write} {rest : List Write} :
    store.Admits state (write :: rest) ↔
      store.Guards state write ∧ store.Admits (store.apply state write) rest := Iff.rfl

theorem admits_append {first second : List Write} :
    store.Admits state (first ++ second) ↔
      store.Admits state first ∧ store.Admits (store.after state first) second := by
  induction first generalizing state with
  | nil => simp
  | cons write rest induction =>
      rw [List.cons_append, admits_cons, admits_cons, after_cons, induction, and_assoc]

/-- What every checked write keeps holds after an admitted list of writes. -/
theorem Admits.invariant {holds : State → Prop}
    (kept : ∀ state write, holds state → store.Guards state write →
      holds (store.apply state write))
    {writes : List Write} (admits : store.Admits state writes) (start : holds state) :
    holds (store.after state writes) := by
  induction writes generalizing state with
  | nil => exact start
  | cons write rest induction =>
      exact induction admits.2 (kept state write start admits.1)

/-- The writes for the items of a list, one item after the other. What holds is said of the items
written so far and of those still to come. -/
theorem admits_flatMap {write : α → List Write} (holds : List α → List α → State → Prop)
    (round : ∀ done item rest state, holds done (item :: rest) state →
      store.Admits state (write item) ∧
        holds (done ++ [item]) rest (store.after state (write item)))
    {items : List α} (start : holds [] items state) :
    store.Admits state (items.flatMap write) ∧
      holds items [] (store.after state (items.flatMap write)) := by
  have general : ∀ rest done state, holds done rest state →
      store.Admits state (rest.flatMap write) ∧
        holds (done ++ rest) [] (store.after state (rest.flatMap write)) := by
    intro rest
    induction rest with
    | nil =>
        intro done state here
        simpa using here
    | cons item rest induction =>
        intro done state here
        have first := round done item rest state here
        have later := induction _ _ first.2
        rw [List.flatMap_cons, admits_append, after_append]
        constructor
        · exact ⟨first.1, later.1⟩
        · simpa using later.2
  exact general items [] state start

/-- One write for each item of a list. -/
theorem admits_map {write : α → Write} (holds : List α → List α → State → Prop)
    (round : ∀ done item rest state, holds done (item :: rest) state →
      store.Guards state (write item) ∧
        holds (done ++ [item]) rest (store.apply state (write item)))
    {items : List α} (start : holds [] items state) :
    store.Admits state (items.map write) ∧
      holds items [] (store.after state (items.map write)) := by
  rw [List.map_eq_flatMap]
  apply admits_flatMap holds _ start
  intro done item rest state here
  have first := round done item rest state here
  exact ⟨⟨first.1, trivial⟩, first.2⟩

variable (store) in
/-- Every write of the program passes its check, and when the program returns, what it returns
and the state it leaves are as the postcondition says. -/
structure Runs (state : State) (program : Logged Write Error α) (post : α → State → Prop) :
    Prop where
  admits : store.Admits state program.writes
  returns : ∀ value, program.result = .ok value → post value (store.after state program.writes)

namespace Runs

protected theorem pure {value : α} {post : α → State → Prop} (holds : post value state) :
    store.Runs state (pure value : Logged Write Error α) post where
  admits := trivial
  returns := by
    intro other returned
    cases returned
    exact holds

protected theorem lift {result : Except Error α} {post : α → State → Prop}
    (holds : ∀ value, result = .ok value → post value state) :
    store.Runs state (Logged.lift result : Logged Write Error α) post where
  admits := trivial
  returns := holds

protected theorem emit {writes : List Write} {post : Unit → State → Prop}
    (admits : store.Admits state writes) (holds : post () (store.after state writes)) :
    store.Runs state (Logged.emit writes : Logged Write Error Unit) post where
  admits := admits
  returns := fun _ _ => holds

protected theorem mono {program : Logged Write Error α} {post weaker : α → State → Prop}
    (runs : store.Runs state program post)
    (implies : ∀ value state, post value state → weaker value state) :
    store.Runs state program weaker where
  admits := runs.admits
  returns := fun value returned => implies value _ (runs.returns value returned)

protected theorem bind {program : Logged Write Error α} {continuation : α → Logged Write Error β}
    {post : β → State → Prop} (middle : α → State → Prop)
    (runs : store.Runs state program middle)
    (continues : ∀ value state, middle value state →
      store.Runs state (continuation value) post) :
    store.Runs state (program >>= continuation) post := by
  have unfolded : program >>= continuation =
      Logged.continueWith program.writes continuation program.result := rfl
  rw [unfolded]
  cases returned : program.result with
  | error error =>
      constructor
      · exact runs.admits
      · intro value impossible
        cases impossible
  | ok value =>
      have later := continues value _ (runs.returns value returned)
      constructor
      · exact admits_append.mpr ⟨runs.admits, later.admits⟩
      · intro final finished
        have holds := later.returns final finished
        rw [← after_append] at holds
        exact holds

protected theorem liftThen {result : Except Error α} {continuation : α → Logged Write Error β}
    {post : β → State → Prop}
    (continues : ∀ value, result = .ok value → store.Runs state (continuation value) post) :
    store.Runs state (Logged.lift result >>= continuation) post := by
  apply Runs.bind fun value reached => result = .ok value ∧ reached = state
  · exact Runs.lift fun value returned => ⟨returned, rfl⟩
  · rintro value _ ⟨returned, rfl⟩
    exact continues value returned

protected theorem emitThen {γ : Type} {writes : List Write}
    {continuation : Unit → Logged Write Error γ} {next : State}
    {post : γ → State → Prop} (admits : store.Admits state writes)
    (reached : store.after state writes = next)
    (continues : store.Runs next (continuation ()) post) :
    store.Runs state (Logged.emit writes >>= continuation) post := by
  apply Runs.bind fun _ state => state = next
  · exact Runs.emit admits reached
  · rintro _ _ rfl
    exact continues

/-- The rule for loops: what holds is said of the items done so far and of those still to come. -/
protected theorem foldlM {step : σ → α → Logged Write Error σ}
    (holds : List α → List α → σ → State → Prop)
    (round : ∀ done item rest value state, holds done (item :: rest) value state →
      store.Runs state (step value item) (holds (done ++ [item]) rest))
    {items : List α} {value : σ} (start : holds [] items value state) :
    store.Runs state (items.foldlM step value) (holds items []) := by
  have general : ∀ rest done value state, holds done rest value state →
      store.Runs state (rest.foldlM step value) (holds (done ++ rest) []) := by
    intro rest
    induction rest with
    | nil =>
        intro done value state here
        rw [List.append_nil]
        exact Runs.pure here
    | cons item rest induction =>
        intro done value state here
        rw [List.foldlM_cons]
        apply Runs.bind _ (round done item rest value state here)
        intro next state later
        have finished := induction _ _ _ later
        rw [List.append_assoc] at finished
        exact finished
  exact general items [] value state start

end Runs

end GuardedStore

end RollingBudget
