import Mathlib.Data.List.Forall2

namespace RecordPattern.Outcome

variable {ε ε' α β : Type}

-- Whether a computation gives a result of some kind can be decided by running it.
instance decidableExistsOk {outcome : Except ε α} {p : α → Prop} [DecidablePred p] :
    Decidable (∃ value, outcome = .ok value ∧ p value) :=
  match outcome with
  | .error _ => isFalse (by simp)
  | .ok value => decidable_of_iff (p value) (by simp)

-- Whether it fails in a certain way can be decided so too.
instance decidableEqError [DecidableEq ε] {outcome : Except ε α} {failure : ε} :
    Decidable (outcome = .error failure) :=
  match outcome with
  | .error other => decidable_of_iff (other = failure) (by simp)
  | .ok _ => isFalse (by simp)

-- Whatever a computation gives, if it gives anything, meets a condition.
def Ensures (post : α → Prop) (outcome : Except ε α) : Prop :=
  ∀ value, outcome = .ok value → post value

instance {post : α → Prop} [DecidablePred post] {outcome : Except ε α} :
    Decidable (Ensures post outcome) :=
  match outcome with
  | .error _ => isTrue fun _ h => by cases h
  | .ok value => decidable_of_iff (post value) ⟨fun h other ho => Except.ok.inj ho ▸ h, fun h => h value rfl⟩

namespace Ensures

variable {post : β → Prop}

theorem error (failure : ε) : Ensures post (.error failure) := by
  intro value h
  cases h

theorem ok {value : β} (hv : post value) : Ensures (ε := ε) post (.ok value) := by
  intro other h
  cases h
  exact hv

-- What came before does not matter as long as every continuation meets the condition.
theorem after {first : Except ε α} {next : α → Except ε β} (hn : ∀ value, Ensures post (next value)) :
    Ensures post (first >>= next) := by
  cases first with
  | error failure => exact .error failure
  | ok value => exact hn value

theorem bind (middle : α → Prop) {first : Except ε α} {next : α → Except ε β}
    (hf : Ensures middle first) (hn : ∀ value, middle value → Ensures post (next value)) :
    Ensures post (first >>= next) := by
  cases first with
  | error failure => exact .error failure
  | ok value => exact hn value (hf value rfl)

end Ensures

-- Whatever two computations give, if both give something, is related.
def Relates (post : α → β → Prop) (first : Except ε α) (second : Except ε β) : Prop :=
  ∀ value other, first = .ok value → second = .ok other → post value other

namespace Relates

variable {γ δ : Type} {post : γ → δ → Prop} {first : Except ε γ} {second : Except ε δ}

theorem errorLeft (failure : ε) : Relates post (.error failure) second := by
  intro value other h _
  cases h

theorem errorRight (failure : ε) : Relates post first (.error failure) := by
  intro value other _ h
  cases h

theorem ok {value : γ} {other : δ} (h : post value other) :
    Relates (ε := ε) post (.ok value) (.ok other) := by
  intro _ _ hv ho
  cases hv
  cases ho
  exact h

theorem mono {weaker : γ → δ → Prop} (h : Relates post first second)
    (hpost : ∀ value other, post value other → weaker value other) :
    Relates weaker first second :=
  fun value other hv ho => hpost value other (h value other hv ho)

theorem refl (outcome : Except ε γ) : Relates (· = ·) outcome outcome := by
  intro value other hv ho
  exact Except.ok.inj (hv.symm.trans ho)

-- What the first computation gives is known to come from it.
theorem withLeft (h : Relates post first second) :
    Relates (fun value other => first = .ok value ∧ post value other) first second :=
  fun value other hv ho => ⟨hv, h value other hv ho⟩

theorem ite {condition : Prop} [Decidable condition] {third : Except ε γ} {fourth : Except ε δ}
    (hthen : condition → Relates post first second) (helse : ¬condition → Relates post third fourth) :
    Relates post (if condition then first else third) (if condition then second else fourth) := by
  split
  next h => exact hthen h
  next h => exact helse h

theorem bind (middle : α → β → Prop) {before : Except ε α} {after : Except ε β}
    {next : α → Except ε γ} {follow : β → Except ε δ} (hbefore : Relates middle before after)
    (hnext : ∀ value other, middle value other → Relates post (next value) (follow other)) :
    Relates post (before >>= next) (after >>= follow) := by
  cases before with
  | error failure => exact .errorLeft failure
  | ok value =>
      cases after with
      | error failure => exact .errorRight failure
      | ok other => exact hnext value other (hbefore value other rfl rfl)

end Relates

-- Two computations give results that are related, or fail in the same way.
def Alike {γ : Type} (related : α → γ → Prop) : Except ε α → Except ε γ → Prop
  | .ok value, .ok other => related value other
  | .error failure, .error other => failure = other
  | _, _ => False

theorem bind_eq_ok {first : Except ε α} {next : α → Except ε β} {result : β} :
    first >>= next = .ok result ↔ ∃ value, first = .ok value ∧ next value = .ok result := by
  cases first <;> simp [Bind.bind, Except.bind]

theorem mapError_eq_ok {outcome : Except ε α} {f : ε → ε'} {value : α} :
    outcome.mapError f = .ok value ↔ outcome = .ok value := by
  cases outcome <;> simp [Except.mapError]

-- A computation in two steps fails in the first, or in the second after the first.
theorem bind_eq_error {first : Except ε α} {next : α → Except ε β} {failure : ε} :
    first >>= next = .error failure ↔
      first = .error failure ∨ ∃ value, first = .ok value ∧ next value = .error failure := by
  cases first <;> simp [Bind.bind, Except.bind]

theorem mapError_eq_error {outcome : Except ε α} {f : ε → ε'} {failure : ε'} :
    outcome.mapError f = .error failure ↔ ∃ cause, outcome = .error cause ∧ f cause = failure := by
  cases outcome <;> simp [Except.mapError]

theorem map_eq_ok {outcome : Except ε α} {f : α → β} {result : β} :
    outcome.map f = .ok result ↔ ∃ value, outcome = .ok value ∧ f value = result := by
  cases outcome <;> simp [Except.map]

theorem map_eq_error {outcome : Except ε α} {f : α → β} {failure : ε} :
    outcome.map f = .error failure ↔ outcome = .error failure := by
  cases outcome <;> simp [Except.map]

theorem exists_eq_error_iff {outcome : Except ε α} :
    (∃ failure, outcome = .error failure) ↔ ¬∃ value, outcome = .ok value := by
  cases outcome <;> simp

-- A computation on an item that may be missing gives a result only if it is there.
theorem optionMapM_eq_some {f : α → Except ε β} {item? : Option α} {result : β} :
    item?.mapM f = .ok (some result) ↔ ∃ item, item? = some item ∧ f item = .ok result := by
  cases item? with
  | none => simp [pure, Except.pure]
  | some item => cases hitem : f item <;> simp [Functor.map, Except.map, hitem]

-- A computation over a list succeeds when it does on each item, and gives what they give.
theorem mapM_eq_ok {f : α → Except ε β} {items : List α} {results : List β} :
    items.mapM f = .ok results ↔ List.Forall₂ (fun item result => f item = .ok result) items results := by
  induction items generalizing results with
  | nil =>
      cases results <;> simp [pure, Except.pure]
  | cons item rest ih =>
      rw [List.mapM_cons, bind_eq_ok]
      constructor
      · rintro ⟨first, hf, h⟩
        obtain ⟨others, ho, h⟩ := bind_eq_ok.mp h
        cases h
        exact .cons hf (ih.mp ho)
      · intro h
        cases h with
        | cons hf hr => exact ⟨_, hf, bind_eq_ok.mpr ⟨_, ih.mpr hr, rfl⟩⟩

-- It fails at the first item on which it does.
theorem mapM_eq_error {f : α → Except ε β} {items : List α} {failure : ε} :
    items.mapM f = .error failure ↔ ∃ before item after results,
      items = before ++ item :: after ∧ before.mapM f = .ok results ∧ f item = .error failure := by
  induction items with
  | nil => simp [pure, Except.pure]
  | cons item rest ih =>
      rw [List.mapM_cons, bind_eq_error]
      constructor
      · rintro (hfirst | ⟨first, hfirst, h⟩)
        · exact ⟨[], item, rest, [], rfl, rfl, hfirst⟩
        · rcases bind_eq_error.mp h with h | ⟨_, _, h⟩
          · obtain ⟨before, other, after, results, rfl, hbefore, hother⟩ := ih.mp h
            exact ⟨item :: before, other, after, first :: results, rfl,
              mapM_eq_ok.mpr (.cons hfirst (mapM_eq_ok.mp hbefore)), hother⟩
          · cases h
      · rintro ⟨before, other, after, results, hitems, hbefore, hother⟩
        cases before with
        | nil =>
            cases hitems
            exact Or.inl hother
        | cons first before =>
            cases hitems
            rw [List.mapM_cons] at hbefore
            obtain ⟨value, hvalue, hbefore⟩ := bind_eq_ok.mp hbefore
            obtain ⟨values, hvalues, _⟩ := bind_eq_ok.mp hbefore
            exact Or.inr ⟨value, hvalue, bind_eq_error.mpr
              (Or.inl (ih.mpr ⟨before, other, after, values, rfl, hvalues, hother⟩))⟩

theorem exists_mapM_eq_ok {f : α → Except ε β} {items : List α}
    (h : ∀ item ∈ items, ∃ result, f item = .ok result) : ∃ results, items.mapM f = .ok results := by
  cases hmap : items.mapM f with
  | ok results => exact ⟨results, rfl⟩
  | error failure =>
      obtain ⟨before, item, after, _, rfl, _, hitem⟩ := mapM_eq_error.mp hmap
      obtain ⟨result, hresult⟩ := h item (by simp)
      cases hitem.symm.trans hresult

-- What each result has in common with its item, the lists of results and items have too.
theorem map_eq_of_mapM {γ : Type} (key : α → γ) (name : β → γ) {f : α → Except ε β}
    {items : List α} {results : List β} (h : items.mapM f = .ok results)
    (hname : ∀ item result, f item = .ok result → name result = key item) :
    results.map name = items.map key := by
  induction mapM_eq_ok.mp h with
  | nil => rfl
  | cons hfirst hrest ih =>
      rw [List.map_cons, List.map_cons, hname _ _ hfirst, ih (mapM_eq_ok.mpr hrest)]

theorem exists_of_mapM {f : α → Except ε β} {items : List α} {results : List β}
    (h : items.mapM f = .ok results) {result : β} (hr : result ∈ results) :
    ∃ item ∈ items, f item = .ok result := by
  induction mapM_eq_ok.mp h with
  | nil => cases hr
  | cons hfirst hrest ih =>
      rcases List.mem_cons.mp hr with rfl | hr
      · exact ⟨_, List.mem_cons_self, hfirst⟩
      · obtain ⟨item, hi, hitem⟩ := ih (mapM_eq_ok.mpr hrest) hr
        exact ⟨item, List.mem_cons_of_mem _ hi, hitem⟩

theorem exists_of_mem_mapM {f : α → Except ε β} {items : List α} {results : List β}
    (h : items.mapM f = .ok results) {item : α} (hi : item ∈ items) :
    ∃ result ∈ results, f item = .ok result := by
  induction mapM_eq_ok.mp h with
  | nil => cases hi
  | cons hfirst hrest ih =>
      rcases List.mem_cons.mp hi with rfl | hi
      · exact ⟨_, List.mem_cons_self, hfirst⟩
      · obtain ⟨result, hr, hresult⟩ := ih (mapM_eq_ok.mpr hrest) hi
        exact ⟨result, List.mem_cons_of_mem _ hr, hresult⟩

end RecordPattern.Outcome
