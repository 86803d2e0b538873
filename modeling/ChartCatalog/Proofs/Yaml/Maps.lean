import ChartCatalog.Yaml.Decode
import Mathlib.Data.String.Basic

/-!
# What decoded values always satisfy

A decoder yields a property when every value it returns, from any document and any
cursor, has it (`Decoder.Yields`). The property passes through the decoder's binds, so it
is proved of a decoder by walking its `do` block once (`Decoder.Yields.bind`), and of a
combinator for every argument that yields it: an alias jump (`yields_resolve`), an
optional value with a default (`yields_orDefault`) and a record whose every field update
keeps it (`yields_recordFrom`).

The main fact is that a decoded map lists each key once, in increasing order
(`yields_mapFrom`): a later equal key replaces the earlier one in place
(`insertSorted_sorted`).
-/

set_option autoImplicit false

namespace ChartCatalog.Yaml

/-- Keys that increase strictly along a list of pairs. -/
def KeysIncrease {α : Type} (pairs : List (String × α)) : Prop :=
  pairs.Pairwise fun a b => a.1 < b.1

section Insert

variable {α : Type}

/-- Inserting adds the key and keeps the other pairs. -/
theorem mem_insertSorted {key : String} {value : α} {acc : List (String × α)} {p : String × α}
    (member : p ∈ Decoder.insertSorted key value acc) : p.1 = key ∨ p ∈ acc := by
  induction acc with
  | nil =>
    simp only [Decoder.insertSorted, List.mem_singleton] at member
    exact .inl (by rw [member])
  | cons head rest ih =>
    unfold Decoder.insertSorted at member
    split_ifs at member with same less
    · rcases List.mem_cons.1 member with rfl | inRest
      · exact .inl rfl
      · exact .inr (List.mem_cons_of_mem _ inRest)
    · rcases List.mem_cons.1 member with rfl | inAcc
      · exact .inl rfl
      · exact .inr inAcc
    · rcases List.mem_cons.1 member with rfl | inRest
      · exact .inr List.mem_cons_self
      · exact (ih inRest).imp_right (List.mem_cons_of_mem _)

/-- Inserting into a list with increasing keys keeps its keys increasing. -/
theorem insertSorted_sorted {key : String} {value : α} {acc : List (String × α)}
    (sorted : KeysIncrease acc) : KeysIncrease (Decoder.insertSorted key value acc) := by
  induction acc with
  | nil => exact List.pairwise_singleton _ _
  | cons head rest ih =>
    obtain ⟨above, restSorted⟩ := List.pairwise_cons.1 sorted
    unfold Decoder.insertSorted
    split_ifs with same less
    · -- the key replaces the head's equal key, which is below the rest
      have equal : key = head.1 := beq_iff_eq.1 same
      exact List.pairwise_cons.2 ⟨fun p inRest => equal ▸ above p inRest, restSorted⟩
    · refine List.pairwise_cons.2 ⟨fun p member => ?_, sorted⟩
      rcases List.mem_cons.1 member with rfl | inRest
      · exact less
      · exact lt_trans less (above p inRest)
    · -- the head's key is below the new key, so it stays in front
      have below : head.1 < key :=
        lt_of_le_of_ne (not_lt.1 less) fun equal => same (beq_iff_eq.2 equal.symm)
      refine List.pairwise_cons.2 ⟨fun p member => ?_, ih restSorted⟩
      rcases mem_insertSorted member with isKey | inRest
      · exact isKey ▸ below
      · exact above p inRest

end Insert

namespace Decoder

variable {α β : Type}

/-- Every value the decoder returns, from any document and cursor, satisfies `P`. -/
def Yields (d : Decoder α) (P : α → Prop) : Prop :=
  ∀ doc c v c', d doc c = .ok (v, c') → P v

theorem bind_apply (d : Decoder α) (f : α → Decoder β) (doc : Document) (c : Cursor) :
    (d >>= f) doc c = match d doc c with
      | .ok p => f p.1 doc p.2
      | .error e => .error e := by
  simp only [bind, ReaderT.bind, StateT.bind, Except.bind]
  cases d doc c <;> rfl

theorem yields_true (d : Decoder α) : Yields d fun _ => True :=
  fun _ _ _ _ _ => trivial

theorem yields_pure {P : α → Prop} {a : α} (holds : P a) : Yields (pure a) P := by
  intro doc c v c' ran
  cases ran
  exact holds

theorem yields_throw {P : α → Prop} (e : String) : Yields (throw e) P := by
  intro doc c v c' ran
  cases ran

theorem Yields.imp {d : Decoder α} {P Q : α → Prop} (yields : Yields d P)
    (weaker : ∀ a, P a → Q a) : Yields d Q :=
  fun doc c v c' ran => weaker v (yields doc c v c' ran)

/-- A property of the values passes through a bind. -/
theorem Yields.bind {d : Decoder α} {f : α → Decoder β} {Q : α → Prop} {P : β → Prop}
    (first : Yields d Q) (rest : ∀ a, Q a → Yields (f a) P) : Yields (d >>= f) P := by
  intro doc c v c' ran
  rw [bind_apply] at ran
  split at ran
  · rename_i p ranFirst
    exact rest p.1 (first doc c p.1 p.2 ranFirst) doc p.2 v c' ran
  · cases ran

/-- A bind whose second step yields the property whatever the first returned. -/
theorem yields_bind_of {d : Decoder α} {f : α → Decoder β} {P : β → Prop}
    (rest : ∀ a, Yields (f a) P) : Yields (d >>= f) P :=
  (yields_true d).bind fun a _ => rest a

/-- A decoder that fails first yields anything. -/
theorem yields_throw_bind {f : α → Decoder β} {P : β → Prop} (e : String) :
    Yields (throw e >>= f) P :=
  (yields_throw (P := fun _ => False) e).bind fun _ failed => failed.elim

theorem Yields.map {d : Decoder α} {P : β → Prop} {f : α → β} {Q : α → Prop}
    (yields : Yields d Q) (maps : ∀ a, Q a → P (f a)) : Yields (f <$> d) P := by
  rw [← bind_pure_comp]
  exact yields.bind fun a holds => yields_pure (maps a holds)

/-- Jumping to an anchor returns what the decoder run there returns. -/
theorem yields_jump {P : α → Prop} {k : Decoder α} (id : Nat) (yields : Yields k P) :
    Yields (jump id k) P := by
  unfold jump
  refine yields_bind_of fun doc => yields_bind_of fun c => ?_
  dsimp only
  split
  · exact yields_throw_bind _
  · split
    · exact yields_throw _
    · exact yields_bind_of fun _ =>
        yields.bind fun v holds => yields_bind_of fun _ => yields_pure holds

/-- A node decoded by following aliases yields what its body yields for every event. -/
theorem yields_resolve {P : α → Prop} {body : Loaded → Decoder α} (yields : ∀ e, Yields (body e) P) :
    Yields (resolve body) P := by
  unfold resolve
  refine yields_bind_of fun e => ?_
  split
  · exact yields_jump _ (yields_bind_of yields)
  · exact yields _

/-- An optional value read with a default yields a property that the default and every
present value have. -/
theorem yields_orDefault {P : α → Prop} {body : Loaded → Decoder α} {default : α}
    (yields : ∀ e, Yields (body e) P) (holds : P default) : Yields (orDefault body default) P := by
  unfold orDefault optional
  refine (yields_resolve (P := fun o => ∀ v ∈ o, P v) fun e => ?_).bind
    fun o present => yields_pure ?_
  · unfold optionalFrom
    have some_yields : Yields (some <$> body e) fun o => ∀ v ∈ o, P v :=
      (yields e).map fun v holds w member => Option.mem_some_iff.1 member ▸ holds
    split
    · split
      · split
        · exact yields_pure fun _ member => by cases member
        · exact yields_throw _
      · exact some_yields
    · split
      · exact yields_pure fun _ member => by cases member
      · exact some_yields
    · exact yields_pure fun _ member => by cases member
    · exact some_yields
  · cases o with
    | none => exact holds
    | some v => exact present v rfl

/-- A decoded map lists each key once, in increasing order. -/
theorem yields_mapFrom (value : Decoder α) (e : Loaded) : Yields (mapFrom value e) KeysIncrease := by
  -- the loop keeps its accumulated map sorted, one insertion per entry
  have loop : ∀ fuel (acc : List (String × α)), KeysIncrease acc →
      Yields (mapFrom.go value fuel acc) KeysIncrease := by
    intro fuel
    induction fuel with
    | zero => intro acc _; exact yields_throw _
    | succ fuel ih =>
      intro acc sorted
      unfold mapFrom.go
      refine yields_bind_of fun next => ?_
      split
      · exact yields_bind_of fun _ => yields_pure sorted
      · exact yields_bind_of fun _ => yields_pure sorted
      · exact yields_bind_of fun _ => yields_bind_of fun _ => ih _ (insertSorted_sorted sorted)
  unfold mapFrom
  split
  · exact yields_bind_of fun _ => loop _ [] List.Pairwise.nil
  · split
    · exact yields_pure List.Pairwise.nil
    · exact yields_throw _

/-- A record whose initial value and every field update keep a property has it. -/
theorem yields_recordFrom {σ : Type} {P : σ → Prop} {init : σ}
    {field : String → Option (σ → Decoder σ)} (start : P init)
    (updates : ∀ key update, field key = some update → ∀ acc, P acc → Yields (update acc) P)
    (e : Loaded) : Yields (recordFrom init field e) P := by
  -- the loop keeps its accumulated record in `P`, one field at a time
  have loop : ∀ fuel (acc : σ) (seen : List String), P acc →
      Yields (recordFrom.go field fuel acc seen) P := by
    intro fuel
    induction fuel with
    | zero => intro acc seen _; exact yields_throw _
    | succ fuel ih =>
      intro acc seen holds
      unfold recordFrom.go
      refine yields_bind_of fun next => ?_
      split
      · exact yields_bind_of fun _ => yields_pure holds
      · exact yields_bind_of fun _ => yields_pure holds
      · refine yields_bind_of fun key => ?_
        split
        · rename_i update known
          dsimp only
          split
          · exact yields_throw_bind _
          · exact (updates key update known acc holds).bind fun acc' kept => ih acc' _ kept
        · exact yields_bind_of fun _ => ih acc seen holds
  unfold recordFrom
  split
  · exact yields_bind_of fun _ => loop _ init [] start
  · split
    · exact yields_pure start
    · exact yields_throw _

/-- What a decoder yields holds of the value a whole document decodes to. -/
theorem Yields.run {d : Decoder α} {P : α → Prop} (yields : Yields d P) {doc : Document} {v : α}
    (ran : d.run doc = .ok v) : P v := by
  unfold Decoder.run at ran
  cases decoded : StateT.run (ReaderT.run d doc) ⟨0, 0⟩ with
  | error e => rw [decoded] at ran; cases ran
  | ok result =>
    rw [decoded] at ran
    cases ran
    exact yields doc ⟨0, 0⟩ result.1 result.2 decoded

end Decoder

end ChartCatalog.Yaml
