/-! # Outcomes

A computation that may fail goes on only after each of its steps has succeeded. -/

namespace QueryBindings

variable {ε α β γ : Type}

theorem bind_eq_ok {step : Except ε α} {next : α → Except ε β} {b : β} :
    (step >>= next) = .ok b ↔ ∃ a, step = .ok a ∧ next a = .ok b := by
  cases step with
  | error e =>
      constructor
      · intro h
        cases h
      · rintro ⟨a, h, -⟩
        cases h
  | ok a =>
      constructor
      · intro h
        exact ⟨a, rfl, h⟩
      · rintro ⟨a', h, hnext⟩
        cases h
        exact hnext

/-- Two steps fail exactly if one of them does, the second on the result of the first. -/
theorem bind_eq_error {step : Except ε α} {next : α → Except ε β} {e : ε} :
    (step >>= next) = .error e ↔ step = .error e ∨ ∃ a, step = .ok a ∧ next a = .error e := by
  cases step with
  | error e' =>
      constructor
      · intro h
        cases h
        exact .inl rfl
      · rintro (h | ⟨a, h, -⟩)
        · cases h
          rfl
        · cases h
  | ok a =>
      constructor
      · intro h
        exact .inr ⟨a, rfl, h⟩
      · rintro (h | ⟨a', h, hnext⟩)
        · cases h
        · cases h
          exact hnext

theorem map_eq_ok {step : Except ε α} {change : α → β} {b : β} :
    step.map change = .ok b ↔ ∃ a, step = .ok a ∧ change a = b := by
  cases step with
  | error e => exact iff_of_false nofun fun ⟨_, h, _⟩ => nomatch h
  | ok a =>
      constructor
      · intro h
        cases h
        exact ⟨a, rfl, rfl⟩
      · rintro ⟨a', h, rfl⟩
        cases h
        rfl

theorem combine_eq_ok {first : Except ε α} {second : Except ε β} {combine : α → β → γ} {c : γ} :
    (do let a ← first; return combine a (← second) : Except ε γ) = .ok c ↔
      ∃ a b, first = .ok a ∧ second = .ok b ∧ combine a b = c := by
  rw [bind_eq_ok]
  constructor
  · rintro ⟨a, hfirst, h⟩
    obtain ⟨b, hsecond, hc⟩ := bind_eq_ok.mp h
    cases hc
    exact ⟨a, b, hfirst, hsecond, rfl⟩
  · rintro ⟨a, b, hfirst, hsecond, rfl⟩
    exact ⟨a, hfirst, bind_eq_ok.mpr ⟨b, hsecond, rfl⟩⟩

theorem combine_eq_error {first : Except ε α} {second : Except ε β} {combine : α → β → γ} {e : ε}
    (h : (do let a ← first; return combine a (← second) : Except ε γ) = .error e) :
    first = .error e ∨ second = .error e := by
  rcases bind_eq_error.mp h with h | ⟨a, -, h⟩
  · exact .inl h
  · rcases bind_eq_error.mp h with h | ⟨b, -, h⟩
    · exact .inr h
    · cases h

theorem exists_bind {step : Except ε α} {next : α → Except ε β} (h : ∃ a, step = .ok a)
    (hnext : ∀ a, ∃ b, next a = .ok b) : ∃ b, (step >>= next) = .ok b := by
  obtain ⟨a, ha⟩ := h
  obtain ⟨b, hb⟩ := hnext a
  exact ⟨b, bind_eq_ok.mpr ⟨a, ha, hb⟩⟩

theorem exists_foldlM {step : β → α → Except ε β} {items : List α} {start : β}
    (h : ∀ b, ∀ a ∈ items, ∃ b', step b a = .ok b') :
    ∃ b, items.foldlM step start = .ok b := by
  induction items generalizing start with
  | nil => exact ⟨start, rfl⟩
  | cons a rest ih =>
      rw [List.foldlM_cons]
      refine exists_bind (h start a List.mem_cons_self) fun mid => ?_
      exact ih fun b c hc => h b c (List.mem_cons_of_mem a hc)

/-- A fold fails where one of its steps does. -/
theorem foldlM_eq_error {step : β → α → Except ε β} {items : List α} {start : β} {e : ε}
    (h : items.foldlM step start = .error e) : ∃ b, ∃ a ∈ items, step b a = .error e := by
  induction items generalizing start with
  | nil => cases h
  | cons a rest ih =>
      rw [List.foldlM_cons] at h
      rcases bind_eq_error.mp h with h | ⟨mid, -, h⟩
      · exact ⟨start, a, List.mem_cons_self, h⟩
      · obtain ⟨b, c, hc, hstep⟩ := ih h
        exact ⟨b, c, List.mem_cons_of_mem a hc, hstep⟩

theorem forM_eq_ok {step : α → Except ε Unit} {items : List α} :
    items.forM step = .ok () ↔ ∀ a ∈ items, step a = .ok () := by
  induction items with
  | nil => exact iff_of_true rfl (List.forall_mem_nil _)
  | cons a rest ih =>
      rw [List.forall_mem_cons, ← ih]
      show (step a >>= fun _ => rest.forM step) = .ok () ↔ _
      rw [bind_eq_ok]
      exact ⟨fun ⟨_, ha, hrest⟩ => ⟨ha, hrest⟩, fun ⟨ha, hrest⟩ => ⟨(), ha, hrest⟩⟩

theorem exists_of_mapM {step : α → Except ε β} {items : List α} {results : List β}
    (h : items.mapM step = .ok results) : ∀ b ∈ results, ∃ a ∈ items, step a = .ok b := by
  induction items generalizing results with
  | nil =>
      cases h
      exact List.forall_mem_nil _
  | cons a rest ih =>
      rw [List.mapM_cons] at h
      obtain ⟨b, bs, hfirst, hrest, rfl⟩ := combine_eq_ok.mp h
      refine List.forall_mem_cons.mpr ⟨⟨a, List.mem_cons_self, hfirst⟩, fun c hc => ?_⟩
      obtain ⟨a', ha', hstep⟩ := ih hrest c hc
      exact ⟨a', List.mem_cons_of_mem a ha', hstep⟩

theorem eq_ok_of_toOption {step : Except ε α} {a : α} (h : step.toOption = some a) :
    step = .ok a := by
  cases step with
  | error e => cases h
  | ok b =>
      cases h
      rfl

theorem ne_ok_of_toOption {step : Except ε α} (h : step.toOption = none) (a : α) :
    step ≠ .ok a := by
  rintro rfl
  cases h

end QueryBindings
