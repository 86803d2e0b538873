import ChartCatalog.Sync.Pass
import Mathlib.Order.Defs.Unbundled

/-!
# Running computations that read the web

A computation of `Online σ` runs from a traced state, a state together with the requests
sent so far (`Online.exec`), to its result and the traced state after it. Each primitive
has its equation: a read leaves the state as it was, `get` appends its request, `writing`
changes the state only when the write succeeds, and an error stops the rest of a `bind`
but keeps what was done before it.

`Online.Keeps R m` says that `m` takes every state to one related to it by `R`, on every
fetch and whether it ends in a value or an error. For a preorder `R` this is kept by
`bind`, `tryCatch`, `foldlM` and `forM`, so a computation is shown to keep a relation from
the writes it makes.
-/

set_option autoImplicit false

namespace ChartCatalog.Http.Online

variable {σ α β : Type}

/-- Runs a computation from a traced state: its result and the traced state after it. -/
def exec (m : Online σ α) (fetch : Fetch) (t : Traced σ) : Except CatalogError α × Traced σ :=
  (ExceptT.run (ReaderT.run m fetch)).run t

section Equations

variable (fetch : Fetch) (t : Traced σ)

theorem run_eq_exec (m : Online σ α) (state : σ) : m.run fetch state = m.exec fetch ⟨state, #[]⟩ :=
  rfl

/-! ## One equation per primitive -/

@[simp] theorem exec_pure (a : α) : (pure a : Online σ α).exec fetch t = (.ok a, t) := rfl

@[simp] theorem exec_throw (e : CatalogError) : (throw e : Online σ α).exec fetch t = (.error e, t) :=
  rfl

theorem exec_bind (m : Online σ α) (f : α → Online σ β) :
    (m >>= f).exec fetch t =
      match m.exec fetch t with
      | (.ok a, t') => (f a).exec fetch t'
      | (.error e, t') => (.error e, t') := by
  simp only [exec, bind, ReaderT.bind, ReaderT.run, ExceptT.run, ExceptT.bind, ExceptT.mk, StateT.run,
    StateT.bind, ExceptT.bindCont]
  rcases m fetch t with ⟨_ | _, t'⟩ <;> rfl

/-- After a step that ends in a value, a bind runs its continuation from where the step
ended. -/
theorem exec_bind_of_ok {m : Online σ α} {f : α → Online σ β} {a : α}
    (ran : (m.exec fetch t).1 = .ok a) : (m >>= f).exec fetch t = (f a).exec fetch (m.exec fetch t).2 := by
  rw [exec_bind]
  rcases ended : m.exec fetch t with ⟨e | b, t'⟩
  · rw [ended] at ran
    cases ran
  · rw [ended] at ran
    cases ran
    rfl

theorem exec_tryCatch (m : Online σ α) (handle : CatalogError → Online σ α) :
    (tryCatch m handle).exec fetch t =
      match m.exec fetch t with
      | (.ok a, t') => (.ok a, t')
      | (.error e, t') => (handle e).exec fetch t' := by
  simp only [exec, tryCatch, MonadExcept.tryCatch, MonadExceptOf.tryCatch, ReaderT.run, ExceptT.run,
    ExceptT.tryCatch, ExceptT.mk, StateT.run, StateT.bind, bind, tryCatchThe]
  rcases m fetch t with ⟨_ | _, t'⟩ <;> rfl

@[simp] theorem exec_ofOutcome (o : Outcome α) : (ofOutcome o : Online σ α).exec fetch t = (o, t) := by
  cases o <;> rfl

@[simp] theorem exec_current : (current : Online σ σ).exec fetch t = (.ok t.state, t) := rfl

@[simp] theorem exec_modifyThe (change : Traced σ → Traced σ) :
    (modifyThe (Traced σ) change : Online σ Unit).exec fetch t = (.ok (), change t) := rfl

@[simp] theorem exec_reading (f : σ → Outcome α) : (reading f).exec fetch t = (f t.state, t) := by
  simp only [reading]
  rw [exec_bind, exec_current]
  exact exec_ofOutcome fetch t (f t.state)

theorem exec_writing (f : σ → Outcome (α × σ)) :
    (writing f).exec fetch t =
      match f t.state with
      | .ok (a, next) => (.ok a, { t with state := next })
      | .error e => (.error e, t) := by
  simp only [writing]
  rw [exec_bind, exec_current]
  dsimp only
  rw [exec_bind, exec_ofOutcome]
  cases f t.state with
  | error e => rfl
  | ok written => rfl

@[simp] theorem exec_get (url : String) (auth : Option String) :
    (get url auth).exec fetch t =
      (fetch ⟨url, auth⟩, { t with requests := t.requests.push ⟨url, auth⟩ }) := by
  simp only [get]
  rw [exec_bind, exec_modifyThe]
  dsimp only
  rw [exec_bind]
  exact exec_ofOutcome fetch _ (fetch ⟨url, auth⟩)

theorem exec_getChecked (url : String) (auth : Option String) :
    (getChecked url auth).exec fetch t =
      ((fetch ⟨url, auth⟩).bind fun response => response.checked url,
        { t with requests := t.requests.push ⟨url, auth⟩ }) := by
  simp only [getChecked]
  rw [exec_bind, exec_get]
  cases fetch ⟨url, auth⟩ with
  | error e => rfl
  | ok response => exact exec_ofOutcome fetch _ _

/-- A computation on a part of the state runs on that part, with the requests sent so far,
and its result and requests are those of the whole; the part is put back even on an
error. -/
theorem exec_focus {τ : Type} (view : σ → τ) (update : σ → τ → σ) (m : Online τ α) :
    (focus view update m).exec fetch t =
      ((m.exec fetch ⟨view t.state, t.requests⟩).1,
        ⟨update t.state (m.exec fetch ⟨view t.state, t.requests⟩).2.state,
          (m.exec fetch ⟨view t.state, t.requests⟩).2.requests⟩) := by
  have unfolded : (focus view update m).exec fetch t =
      (ofOutcome (m.exec fetch ⟨view t.state, t.requests⟩).1 : Online σ α).exec fetch
        ⟨update t.state (m.exec fetch ⟨view t.state, t.requests⟩).2.state,
          (m.exec fetch ⟨view t.state, t.requests⟩).2.requests⟩ :=
    rfl
  rw [unfolded, exec_ofOutcome]

/-- A loop whose body sends no request sends none. -/
theorem requests_forM {γ : Type} {f : γ → Online σ PUnit}
    (quiet : ∀ x t, ((f x).exec fetch t).2.requests = t.requests) (xs : List γ) :
    ((xs.forM f).exec fetch t).2.requests = t.requests := by
  induction xs generalizing t with
  | nil => rfl
  | cons x rest ih =>
    show ((f x >>= fun _ => rest.forM f).exec fetch t).2.requests = t.requests
    have first := quiet x t
    rw [exec_bind]
    rcases ran : (f x).exec fetch t with ⟨_ | _, t'⟩
    · rw [ran] at first
      exact first
    · rw [ran] at first
      exact (ih t').trans first

end Equations

/-! ## Relations a computation keeps -/

/-- A computation takes every state to one related to it, on every fetch, whether it ends
in a value or an error. -/
def Keeps (R : σ → σ → Prop) (m : Online σ α) : Prop :=
  ∀ fetch t, R t.state (m.exec fetch t).2.state

variable {R : σ → σ → Prop}

theorem Keeps.of_state_eq {m : Online σ α} [Std.Refl R]
    (same : ∀ fetch t, (m.exec fetch t).2.state = t.state) : Keeps R m := by
  intro fetch t
  rw [same fetch t]
  exact Std.Refl.refl t.state

theorem keeps_pure [Std.Refl R] (a : α) : Keeps R (pure a : Online σ α) :=
  Keeps.of_state_eq fun _ _ => rfl

theorem keeps_throw [Std.Refl R] (e : CatalogError) : Keeps R (throw e : Online σ α) :=
  Keeps.of_state_eq fun _ _ => rfl

theorem keeps_ofOutcome [Std.Refl R] (o : Outcome α) : Keeps R (ofOutcome o : Online σ α) :=
  Keeps.of_state_eq fun fetch t => by rw [exec_ofOutcome]

theorem keeps_reading [Std.Refl R] (f : σ → Outcome α) : Keeps R (reading f) :=
  Keeps.of_state_eq fun fetch t => by rw [exec_reading]

theorem keeps_current [Std.Refl R] : Keeps R (current : Online σ σ) :=
  Keeps.of_state_eq fun _ _ => rfl

theorem keeps_getChecked [Std.Refl R] (url : String) (auth : Option String) :
    Keeps R (getChecked url auth : Online σ Response) :=
  Keeps.of_state_eq fun fetch t => by rw [exec_getChecked]

/-- A write keeps a relation that each of its successful writes keeps. -/
theorem keeps_writing [Std.Refl R] {f : σ → Outcome (α × σ)}
    (written : ∀ s a next, f s = .ok (a, next) → R s next) : Keeps R (writing f) := by
  intro fetch t
  rw [exec_writing]
  cases wrote : f t.state with
  | error e => exact Std.Refl.refl t.state
  | ok result => exact written t.state result.1 result.2 wrote

theorem Keeps.bind [IsTrans σ R] {m : Online σ α} {f : α → Online σ β} (first : Keeps R m)
    (rest : ∀ a, Keeps R (f a)) : Keeps R (m >>= f) := by
  intro fetch t
  rw [exec_bind]
  rcases ran : m.exec fetch t with ⟨_ | a, t'⟩
  · have kept := first fetch t
    rw [ran] at kept
    exact kept
  · have kept := first fetch t
    rw [ran] at kept
    exact trans_of R kept (rest a fetch t')

theorem Keeps.tryCatch [IsTrans σ R] {m : Online σ α} {handle : CatalogError → Online σ α}
    (first : Keeps R m) (handled : ∀ e, Keeps R (handle e)) : Keeps R (tryCatch m handle) := by
  intro fetch t
  rw [exec_tryCatch]
  rcases ran : m.exec fetch t with ⟨e | _, t'⟩
  · have kept := first fetch t
    rw [ran] at kept
    exact trans_of R kept (handled e fetch t')
  · have kept := first fetch t
    rw [ran] at kept
    exact kept

theorem keeps_foldlM [Std.Refl R] [IsTrans σ R] {γ : Type} {f : β → γ → Online σ β}
    (each : ∀ b x, Keeps R (f b x)) : ∀ (xs : List γ) (init : β), Keeps R (xs.foldlM f init)
  | [], init => keeps_pure init
  | x :: rest, init => by
    rw [List.foldlM_cons]
    exact (each init x).bind fun b => keeps_foldlM each rest b

theorem keeps_forM [Std.Refl R] [IsTrans σ R] {γ : Type} {f : γ → Online σ PUnit}
    (each : ∀ x, Keeps R (f x)) : ∀ xs : List γ, Keeps R (xs.forM f)
  | [] => keeps_pure PUnit.unit
  | x :: rest => by
    show Keeps R (f x >>= fun _ => rest.forM f)
    exact (each x).bind fun _ => keeps_forM each rest

/-! ## Computations that always end in a value -/

/-- A computation ends in a value from every traced state, on every fetch. -/
def Succeeds (m : Online σ α) : Prop :=
  ∀ fetch t, ∃ a, (m.exec fetch t).1 = .ok a

theorem succeeds_pure (a : α) : Succeeds (pure a : Online σ α) :=
  fun _ _ => ⟨a, rfl⟩

/-- A computation whose every error is handled by a computation that succeeds, succeeds. -/
theorem succeeds_tryCatch (m : Online σ α) {handle : CatalogError → Online σ α}
    (handled : ∀ e, Succeeds (handle e)) : Succeeds (tryCatch m handle) := by
  intro fetch t
  rw [exec_tryCatch]
  rcases m.exec fetch t with ⟨e | a, t'⟩
  · exact handled e fetch t'
  · exact ⟨a, rfl⟩

theorem Succeeds.bind {m : Online σ α} {f : α → Online σ β} (first : Succeeds m)
    (rest : ∀ a, Succeeds (f a)) : Succeeds (m >>= f) := by
  intro fetch t
  rw [exec_bind]
  obtain ⟨a, ran⟩ := first fetch t
  rcases result : m.exec fetch t with ⟨e | a', t'⟩
  · rw [result] at ran
    cases ran
  · exact rest a' fetch t'

theorem succeeds_foldlM {γ : Type} {f : β → γ → Online σ β} (each : ∀ b x, Succeeds (f b x)) :
    ∀ (xs : List γ) (init : β), Succeeds (xs.foldlM f init)
  | [], init => succeeds_pure init
  | x :: rest, init => by
    rw [List.foldlM_cons]
    exact (each init x).bind fun b => succeeds_foldlM each rest b

/-! ## What the values of a computation satisfy -/

/-- Every value a computation ends in satisfies `P`, on every fetch and from every traced
state. -/
def Returns (P : α → Prop) (m : Online σ α) : Prop :=
  ∀ fetch t a, (m.exec fetch t).1 = .ok a → P a

theorem returns_pure {P : α → Prop} {a : α} (holds : P a) : Returns P (pure a : Online σ α) := by
  intro fetch t a' ran
  cases ran
  exact holds

/-- A computation returns what every value satisfies. -/
theorem returns_trivial (m : Online σ α) : Returns (fun _ => True) m :=
  fun _ _ _ _ => trivial

theorem Returns.imp {P Q : α → Prop} {m : Online σ α} (returns : Returns P m)
    (weaker : ∀ a, P a → Q a) : Returns Q m :=
  fun fetch t a ran => weaker a (returns fetch t a ran)

/-- What the first computation returns is what the rest may assume. -/
theorem Returns.bind {P : α → Prop} {Q : β → Prop} {m : Online σ α} {f : α → Online σ β}
    (first : Returns P m) (rest : ∀ a, P a → Returns Q (f a)) : Returns Q (m >>= f) := by
  intro fetch t b ran
  rw [exec_bind] at ran
  rcases result : m.exec fetch t with ⟨e | a, t'⟩
  · rw [result] at ran
    cases ran
  · rw [result] at ran
    have returned := first fetch t a (by rw [result])
    exact rest a returned fetch t' b ran

theorem returns_tryCatch {P : α → Prop} {m : Online σ α} {handle : CatalogError → Online σ α}
    (first : Returns P m) (handled : ∀ e, Returns P (handle e)) :
    Returns P (tryCatch m handle) := by
  intro fetch t a ran
  rw [exec_tryCatch] at ran
  rcases result : m.exec fetch t with ⟨e | a', t'⟩
  · rw [result] at ran
    exact handled e fetch t' a ran
  · rw [result] at ran
    exact first fetch t a (by rw [result]; exact ran)

/-! ## What a computation leads to -/

section Leads

variable {fetch : Fetch} {P P' : σ → Prop} {Q Q' : α → σ → Prop} {E E' : σ → Prop}

/-- Run against `fetch` from a state where `P` holds, the computation ends in a value `a`
and a state where `Q a` holds, or in an error and a state where `E` holds. -/
def Leads (fetch : Fetch) (P : σ → Prop) (m : Online σ α) (Q : α → σ → Prop) (E : σ → Prop) :
    Prop :=
  ∀ t, P t.state → (∀ a, (m.exec fetch t).1 = .ok a → Q a (m.exec fetch t).2.state) ∧
    ∀ e, (m.exec fetch t).1 = .error e → E (m.exec fetch t).2.state

theorem Leads.conseq {m : Online σ α} (leads : Leads fetch P m Q E) (pre : ∀ s, P' s → P s)
    (post : ∀ a s, Q a s → Q' a s) (failed : ∀ s, E s → E' s) : Leads fetch P' m Q' E' := by
  intro t holds
  obtain ⟨ok, err⟩ := leads t (pre _ holds)
  exact ⟨fun a ran => post _ _ (ok a ran), fun e ran => failed _ (err e ran)⟩

theorem leads_trivial (m : Online σ α) : Leads fetch P m (fun _ _ => True) fun _ => True :=
  fun _ _ => ⟨fun _ _ => trivial, fun _ _ => trivial⟩

/-- Nothing is run from no state. -/
theorem leads_absurd (m : Online σ α) : Leads fetch (fun _ => False) m Q E :=
  fun _ pre => pre.elim

theorem leads_pure {a : α} (holds : ∀ s, P s → Q a s) : Leads fetch P (pure a) Q E := by
  intro t pre
  refine ⟨fun a' ran => ?_, fun e ran => ?_⟩
  · cases ran
    exact holds _ pre
  · cases ran

theorem leads_throw {e : CatalogError} (holds : ∀ s, P s → E s) :
    Leads fetch P (throw e : Online σ α) Q E :=
  fun _ pre => ⟨fun _ ran => (by cases ran), fun _ _ => holds _ pre⟩

theorem leads_ofOutcome {o : Outcome α} (ok : ∀ a s, o = .ok a → P s → Q a s)
    (err : ∀ s, P s → E s) : Leads fetch P (ofOutcome o) Q E := by
  intro t pre
  rw [exec_ofOutcome]
  exact ⟨fun a ran => ok a _ ran pre, fun _ _ => err _ pre⟩

theorem leads_current {Q : σ → σ → Prop} (holds : ∀ s, P s → Q s s) :
    Leads fetch P current Q E := by
  intro t pre
  rw [exec_current]
  exact ⟨fun a ran => (by cases ran; exact holds _ pre), fun _ ran => by cases ran⟩

theorem leads_reading {f : σ → Outcome α} (ok : ∀ a s, P s → f s = .ok a → Q a s)
    (err : ∀ s, P s → E s) : Leads fetch P (reading f) Q E := by
  intro t pre
  rw [exec_reading]
  exact ⟨fun a ran => ok a _ pre ran, fun _ _ => err _ pre⟩

/-- A request leaves the state as it was: its answer is what the fetch gives. -/
theorem leads_getChecked {url : String} {auth : Option String} {Q : Response → σ → Prop}
    (ok : ∀ response s, P s →
      ((fetch ⟨url, auth⟩).bind fun r => r.checked url) = .ok response → Q response s)
    (err : ∀ s, P s → E s) : Leads fetch P (getChecked url auth) Q E := by
  intro t pre
  rw [exec_getChecked]
  exact ⟨fun response ran => ok response _ pre ran, fun _ _ => err _ pre⟩

/-- A write that succeeds leads to its next state, one that fails keeps the state. -/
theorem leads_writing {f : σ → Outcome (α × σ)}
    (wrote : ∀ s a next, P s → f s = .ok (a, next) → Q a next) (err : ∀ s, P s → E s) :
    Leads fetch P (writing f) Q E := by
  intro t pre
  rw [exec_writing]
  rcases written : f t.state with e | ⟨a, next⟩
  · exact ⟨fun _ ran => (by cases ran), fun _ _ => err _ pre⟩
  · exact ⟨fun _ ran => (by cases ran; exact wrote _ _ _ pre written), fun _ ran => by cases ran⟩

/-- What the first computation leads to is where the rest starts; an error of either ends
in the shared error condition. -/
theorem Leads.bind {R : α → σ → Prop} {Q : β → σ → Prop} {m : Online σ α} {f : α → Online σ β}
    (first : Leads fetch P m R E) (rest : ∀ a, Leads fetch (R a) (f a) Q E) :
    Leads fetch P (m >>= f) Q E := by
  intro t pre
  rw [exec_bind]
  obtain ⟨ok, err⟩ := first t pre
  rcases ran : m.exec fetch t with ⟨e | a, t'⟩
  · rw [ran] at err
    exact ⟨fun _ wrong => (by cases wrong), fun _ _ => err e rfl⟩
  · rw [ran] at ok
    exact rest a t' (ok a rfl)

/-- A handler starts where the computation it handles failed. -/
theorem leads_tryCatch {m : Online σ α} {handle : CatalogError → Online σ α}
    (first : Leads fetch P m Q E) (handled : ∀ e, Leads fetch E (handle e) Q E') :
    Leads fetch P (tryCatch m handle) Q E' := by
  intro t pre
  rw [exec_tryCatch]
  obtain ⟨ok, err⟩ := first t pre
  rcases ran : m.exec fetch t with ⟨e | a, t'⟩
  · rw [ran] at err
    exact handled e t' (err e rfl)
  · rw [ran] at ok
    exact ⟨fun _ same => (by cases same; exact ok a rfl), fun _ wrong => by cases wrong⟩

/-- A computation that keeps a relation keeps every condition the relation carries, whether
it ends in a value or in an error. -/
theorem Leads.of_keeps {m : Online σ α} (keeps : Keeps R m) (carried : ∀ s s', P s → R s s' → P s') :
    Leads fetch P m (fun _ => P) P :=
  fun t pre => ⟨fun _ _ => carried _ _ pre (keeps fetch t), fun _ _ => carried _ _ pre (keeps fetch t)⟩

/-- A computation that leads to one condition whether it ends in a value or in an error
leaves a state where the condition holds. -/
theorem Leads.final {m : Online σ α} {R : σ → Prop} (leads : Leads fetch P m (fun _ => R) R)
    (t : Traced σ) (pre : P t.state) : R (m.exec fetch t).2.state := by
  obtain ⟨ok, err⟩ := leads t pre
  rcases ran : (m.exec fetch t).1 with e | a
  · exact err e ran
  · exact ok a ran

/-- A fact the precondition carries can be assumed. -/
theorem Leads.assume {φ : Prop} {m : Online σ α} (leads : φ → Leads fetch P m Q E) :
    Leads fetch (fun s => φ ∧ P s) m Q E :=
  fun t pre => leads pre.1 t pre.2

/-- What follows an outcome runs knowing the value the outcome holds. -/
theorem leads_ofOutcome_bind {o : Outcome α} {f : α → Online σ β} {Q : β → σ → Prop}
    (rest : ∀ a, o = .ok a → Leads fetch P (f a) Q E) (failed : ∀ s, P s → E s) :
    Leads fetch P (ofOutcome o >>= f) Q E :=
  (leads_ofOutcome (Q := fun a s => o = .ok a ∧ P s) (fun _ _ given pre => ⟨given, pre⟩)
    failed).bind fun a => Leads.assume (rest a)

/-- What follows a request runs knowing the response the fetch answers. -/
theorem leads_getChecked_bind {url : String} {auth : Option String} {f : Response → Online σ β}
    {Q : β → σ → Prop}
    (rest : ∀ response, ((fetch ⟨url, auth⟩).bind fun r => r.checked url) = .ok response →
      Leads fetch P (f response) Q E)
    (failed : ∀ s, P s → E s) : Leads fetch P (getChecked url auth >>= f) Q E :=
  (leads_getChecked (Q := fun response s =>
    ((fetch ⟨url, auth⟩).bind fun r => r.checked url) = .ok response ∧ P s)
    (fun _ _ pre answered => ⟨answered, pre⟩) failed).bind fun response => Leads.assume (rest response)

/-- A loop whose body takes the condition for the elements done to the one with the next
element done leads from the condition with none done to the one with all done. -/
theorem leads_forM {γ : Type} {f : γ → Online σ PUnit} {I : List γ → σ → Prop} {xs : List γ}
    (each : ∀ done x, x ∈ xs → Leads fetch (I done) (f x) (fun _ => I (done ++ [x])) E) :
    Leads fetch (I []) (xs.forM f) (fun _ => I xs) E := by
  -- the loop runs over a suffix of the list, with the elements before it done
  have suffix : ∀ ys done, done ++ ys = xs → Leads fetch (I done) (ys.forM f) (fun _ => I xs) E := by
    intro ys
    induction ys with
    | nil =>
      intro done whole
      exact leads_pure fun s holds => by simpa [← whole] using holds
    | cons y rest ih =>
      intro done whole
      show Leads fetch (I done) (f y >>= fun _ => rest.forM f) _ E
      have member : y ∈ xs := by simp [← whole]
      exact (each done y member).bind fun _ => ih (done ++ [y]) (by simp [← whole])
  exact suffix xs [] rfl

/-- A fold whose every step keeps a condition, on success and on failure, keeps it. -/
theorem leads_foldlM {γ : Type} {f : β → γ → Online σ β} {I : σ → Prop} {xs : List γ}
    (each : ∀ b x, x ∈ xs → Leads fetch I (f b x) (fun _ => I) I) (init : β) :
    Leads fetch I (xs.foldlM f init) (fun _ => I) I := by
  induction xs generalizing init with
  | nil => exact leads_pure fun _ holds => holds
  | cons x rest ih =>
    rw [List.foldlM_cons]
    exact (each init x List.mem_cons_self).bind fun b =>
      ih (fun b' y member => each b' y (List.mem_cons_of_mem _ member)) b

end Leads

end ChartCatalog.Http.Online
