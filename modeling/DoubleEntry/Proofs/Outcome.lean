import DoubleEntry.Error

/-!
# Checks in sequence

A chain of checks succeeds exactly if each of them does, and it fails with the error
of the first that fails.
-/

namespace DoubleEntry

variable {ε α β : Type}

theorem bind_eq_ok_iff {first : Except ε α} {rest : α → Except ε β} {value : β} :
    first >>= rest = .ok value ↔ ∃ middle, first = .ok middle ∧ rest middle = .ok value := by
  cases first with
  | error e => simp [bind, Except.bind]
  | ok middle => simp [bind, Except.bind]

theorem pure_eq_ok_iff {value other : α} : (pure value : Except ε α) = .ok other ↔ value = other :=
  Except.ok.injEq value other ▸ Iff.rfl

theorem then_eq_ok_iff {first : Except ε Unit} {rest : Except ε β} {value : β} :
    (first >>= fun _ => rest) = .ok value ↔ first = .ok () ∧ rest = .ok value := by
  rw [bind_eq_ok_iff]
  exact ⟨fun ⟨(), h⟩ => h, fun h => ⟨(), h⟩⟩

theorem forM_eq_ok_iff {check : α → Except ε Unit} {values : List α} :
    forM values check = .ok () ↔ ∀ value ∈ values, check value = .ok () := by
  induction values with
  | nil => simp [pure, Except.pure]
  | cons first rest ih =>
      rw [List.forM_cons, then_eq_ok_iff, ih, List.forall_mem_cons]

theorem lift_eq_ok_iff {result : Except Overflow α} {value : α} :
    Overflow.lift result = .ok value ↔ result = .ok value := by
  cases result with
  | error e => exact ⟨nofun, nofun⟩
  | ok other =>
      show (Except.ok other : Except LedgerError α) = .ok value ↔ _
      rw [Except.ok.injEq, Except.ok.injEq]

theorem lift_eq_error_iff {result : Except Overflow α} {e : LedgerError} :
    Overflow.lift result = .error e ↔ ∃ cause, result = .error cause ∧ .overflow cause = e := by
  cases result with
  | error cause =>
      show (Except.error (.overflow cause) : Except LedgerError α) = .error e ↔ _
      simp
  | ok value => exact ⟨nofun, fun ⟨_, fails, _⟩ => nomatch fails⟩

theorem bind_eq_error_iff {first : Except ε α} {rest : α → Except ε β} {e : ε} :
    first >>= rest = .error e ↔
      first = .error e ∨ ∃ value, first = .ok value ∧ rest value = .error e := by
  cases first with
  | error other => simp [bind, Except.bind]
  | ok value => simp [bind, Except.bind]

theorem forM_eq_error {check : α → Except ε Unit} {values : List α} {e : ε}
    (fails : forM values check = .error e) : ∃ value ∈ values, check value = .error e := by
  induction values with
  | nil => cases fails
  | cons first rest ih =>
      rw [List.forM_cons, bind_eq_error_iff] at fails
      rcases fails with fails | ⟨-, -, fails⟩
      · exact ⟨first, List.mem_cons_self, fails⟩
      · obtain ⟨value, member, fails⟩ := ih fails
        exact ⟨value, List.mem_cons_of_mem _ member, fails⟩

theorem foldlM_eq_error_iff {f : β → α → Except ε β} {values : List α} {start : β} {e : ε} :
    values.foldlM f start = .error e ↔ ∃ before value after middle,
      values = before ++ value :: after ∧ before.foldlM f start = .ok middle ∧
      f middle value = .error e := by
  induction values generalizing start with
  | nil => simp [pure, Except.pure]
  | cons first rest ih =>
      rw [List.foldlM_cons, bind_eq_error_iff]
      constructor
      · rintro (fails | ⟨next, goesOn, fails⟩)
        · exact ⟨[], first, rest, start, rfl, rfl, fails⟩
        · obtain ⟨before, value, after, middle, rfl, counted, fails⟩ := ih.mp fails
          refine ⟨first :: before, value, after, middle, rfl, ?_, fails⟩
          rw [List.foldlM_cons, goesOn]
          exact counted
      · rintro ⟨before, value, after, middle, split, counted, fails⟩
        cases before with
        | nil =>
            cases split
            cases counted
            exact .inl fails
        | cons other before =>
            cases split
            rw [List.foldlM_cons, bind_eq_ok_iff] at counted
            obtain ⟨next, goesOn, counted⟩ := counted
            exact .inr ⟨next, goesOn, ih.mpr ⟨before, value, after, middle, rfl, counted, fails⟩⟩

theorem exists_mapM_iff {f : α → Except ε β} {values : List α} :
    (∃ results, values.mapM f = .ok results) ↔
      ∀ value ∈ values, ∃ result, f value = .ok result := by
  induction values with
  | nil => simp [pure, Except.pure]
  | cons first rest ih =>
      rw [List.forall_mem_cons, ← ih]
      simp only [List.mapM_cons, bind_eq_ok_iff, pure_eq_ok_iff]
      constructor
      · rintro ⟨-, result, own, results, others, -⟩
        exact ⟨⟨result, own⟩, results, others⟩
      · rintro ⟨⟨result, own⟩, results, others⟩
        exact ⟨_, result, own, results, others, rfl⟩

theorem mapM_map_pair {γ : Type} (f : α → Except ε β) (g : α → γ) (values : List α) :
    (values.mapM fun value => (f value).map (g value, ·)) =
      (values.mapM f).map fun results =>
        (values.zip results).map fun pair => (g pair.1, pair.2) := by
  induction values with
  | nil => rfl
  | cons first rest ih =>
      rw [List.mapM_cons, List.mapM_cons, ih]
      cases f first with
      | error e => rfl
      | ok result => cases rest.mapM f <;> rfl

theorem mapM_zip {f : α → Except ε β} {values : List α} {results : List β}
    (maps : values.mapM f = .ok results) :
    results.length = values.length ∧ ∀ pair ∈ values.zip results, f pair.1 = .ok pair.2 := by
  induction values generalizing results with
  | nil =>
      cases maps
      simp
  | cons first rest ih =>
      simp only [List.mapM_cons, bind_eq_ok_iff, pure_eq_ok_iff] at maps
      obtain ⟨result, own, others, maps, rfl⟩ := maps
      obtain ⟨length, rest_zip⟩ := ih maps
      refine ⟨by simp [length], fun pair member => ?_⟩
      rcases List.mem_cons.mp member with rfl | member
      · exact own
      · exact rest_zip pair member

theorem mapM_eq_error_split {f : α → Except ε β} {values : List α} {e : ε}
    (fails : values.mapM f = .error e) : ∃ before value after,
      values = before ++ value :: after ∧
      (∀ other ∈ before, ∃ result, f other = .ok result) ∧ f value = .error e := by
  induction values with
  | nil => cases fails
  | cons first rest ih =>
      rw [List.mapM_cons, bind_eq_error_iff] at fails
      rcases fails with fails | ⟨result, own, fails⟩
      · exact ⟨[], first, rest, rfl, by simp, fails⟩
      · rcases bind_eq_error_iff.mp fails with fails | ⟨_, -, fails⟩
        · obtain ⟨before, value, after, rfl, succeed, fails⟩ := ih fails
          exact ⟨first :: before, value, after, rfl,
            List.forall_mem_cons.mpr ⟨⟨result, own⟩, succeed⟩, fails⟩
        · cases fails

theorem mapM_eq_error {f : α → Except ε β} {values : List α} {e : ε}
    (fails : values.mapM f = .error e) : ∃ value ∈ values, f value = .error e := by
  obtain ⟨before, value, after, rfl, -, fails⟩ := mapM_eq_error_split fails
  exact ⟨value, by simp, fails⟩

theorem run_bind {σ : Type} (work : ExceptT ε (StateM σ) α) (rest : α → ExceptT ε (StateM σ) β)
    (state : σ) : (work >>= rest).run.run state =
      match work.run.run state with
      | (.ok value, after) => (rest value).run.run after
      | (.error e, after) => (.error e, after) := by
  show (ExceptT.bind work rest).run.run state = _
  simp only [ExceptT.bind, ExceptT.run, ExceptT.mk, StateT.run, bind, StateT.bind]
  rcases work state with ⟨_ | _, _⟩ <;> rfl

end DoubleEntry
