import NfcHost.Act

/-!
# Contracts of actions

Four kinds of statements about actions, each with rules for the ways to build an action. `Ends`: from one state the action
ends in one way and leaves one state; what it tells does not count. `Meets`: from a state with one property the action ends
in a value or a fault with another. `Keeps`: a property of the state outlives the action, however it ends. `Coupled`: two
actions that start from related states end alike, in related values or the same fault, and leave related states. A coupling
may excuse some faults of its left side: where the left side ends in one, nothing is said of the right side. A relation
between actions that respects every way to build one is a `Congruence`; keeping an invariant and ending alike are such
relations.
-/

namespace NfcHost

namespace Outcome

variable {σ τ α β : Type}

/-- The outcome is a value and a state with `post`, or a fault and a state with `bad`. -/
def Meets (post : α → σ → Prop) (bad : Fault → σ → Prop) (o : Outcome σ α) : Prop :=
  match o.result with
  | .ok value => post value o.state
  | .error fault => bad fault o.state

/-- Two outcomes are alike: values related by `V` or the same fault, and states related by `R`; or else the first is an
excused fault. -/
def Alike (R : σ → τ → Prop) (excused : Fault → Prop) (V : α → β → Prop) (o : Outcome σ α) (o' : Outcome τ β) : Prop :=
  match o.result, o'.result with
  | .ok value, .ok value' => V value value' ∧ R o.state o'.state
  | .error fault, .error fault' => excused fault ∨ fault = fault' ∧ R o.state o'.state
  | .error fault, .ok _ => excused fault
  | .ok _, .error _ => False

/-- Without an excuse, outcomes that are alike have the same result. -/
theorem Alike.same {R : σ → τ → Prop} {o : Outcome σ α} {o' : Outcome τ α} (h : Alike R (fun _ => False) Eq o o') :
    o.result = o'.result ∧ R o.state o'.state := by
  unfold Alike at h
  split at h
  · rename_i hv hv'
    rw [hv, hv', h.1]
    exact ⟨rfl, h.2⟩
  · rename_i hf hf'
    obtain h | ⟨hfault, h⟩ := h
    · exact h.elim
    · rw [hf, hf', hfault]
      exact ⟨rfl, h⟩
  · exact h.elim
  · exact h.elim

end Outcome

namespace Act

variable {σ τ α β γ δ : Type}

/-! ## Exact ends -/

/-- Run from `s`, the action ends in `r` and leaves `s'`. -/
def Ends (a : Act σ α) (s : σ) (r : Except Fault α) (s' : σ) : Prop := (a.run s).result = r ∧ (a.run s).state = s'

/-- Every run ends in one way. -/
theorem Ends.of_run (a : Act σ α) (s : σ) : a.Ends s (a.run s).result (a.run s).state := ⟨rfl, rfl⟩

/-- After a value the next action goes on from the state left. -/
theorem Ends.bind {a : Act σ α} {f : α → Act σ β} {s s' s'' : σ} {v : α} {r : Except Fault β} (h : a.Ends s (.ok v) s')
    (hf : (f v).Ends s' r s'') : (a >>= f).Ends s r s'' := by
  obtain ⟨h1, rfl⟩ := h
  unfold Ends at hf ⊢
  rw [run_bind]
  revert h1 hf
  rcases a.run s with ⟨_ | w, s', log⟩ <;> rintro ⟨⟩ hf
  exact hf

/-- A fault ends the sequence. -/
theorem Ends.bind_error {a : Act σ α} {f : α → Act σ β} {s s' : σ} {fault : Fault} (h : a.Ends s (.error fault) s') :
    (a >>= f).Ends s (.error fault) s' := by
  obtain ⟨h1, rfl⟩ := h
  unfold Ends
  rw [run_bind]
  revert h1
  rcases a.run s with ⟨_ | w, s', log⟩ <;> rintro ⟨⟩
  exact ⟨rfl, rfl⟩

/-- What a sequence leaves when its first action ends in a value. -/
theorem state_bind_of_ok {a : Act σ α} (f : α → Act σ β) {s : σ} {v : α} (h : (a.run s).result = .ok v) :
    ((a >>= f).run s).state = ((f v).run (a.run s).state).state :=
  (Ends.bind (a := a) (f := f) ⟨h, rfl⟩ ⟨rfl, rfl⟩).2

/-- What a sequence leaves when its first action ends in a fault. -/
theorem state_bind_of_error {a : Act σ α} (f : α → Act σ β) {s : σ} {fault : Fault} (h : (a.run s).result = .error fault) :
    ((a >>= f).run s).state = (a.run s).state :=
  (Ends.bind_error (a := a) (f := f) ⟨h, rfl⟩).2

/-- A sequence that ends in a value did so in both parts. -/
theorem results_of_bind_ok {a : Act σ α} {f : α → Act σ β} {s : σ} {v : β} (h : ((a >>= f).run s).result = .ok v) :
    ∃ w, (a.run s).result = .ok w ∧ ((f w).run (a.run s).state).result = .ok v := by
  rw [run_bind] at h
  revert h
  rcases a.run s with ⟨_ | w, s', log⟩ <;> intro h
  · nomatch h
  · exact ⟨w, rfl, h⟩

/-- What is made of a value changes nothing in the state. -/
theorem state_bind_done (a : Act σ α) (f : α → β) (s : σ) : ((a >>= fun v => pure (f v)).run s).state = (a.run s).state := by
  rw [run_bind]
  rcases a.run s with ⟨_ | v, s', log⟩ <;> rfl

theorem Ends.done (v : α) (s : σ) : (pure v : Act σ α).Ends s (.ok v) s := ⟨rfl, rfl⟩

theorem Ends.look (f : σ → α) (s : σ) : (look f).Ends s (.ok (f s)) s := ⟨rfl, rfl⟩

theorem Ends.change (f : σ → σ) (s : σ) : (change f).Ends s (.ok ()) (f s) := ⟨rfl, rfl⟩

theorem Ends.tell (label : σ → String) (event : Event) (s : σ) : (tell label event).Ends s (.ok ()) s := ⟨rfl, rfl⟩

theorem Ends.tellIf (cause : Bool) (label : σ → String) (event : Event) (s : σ) :
    (tellIf cause label event).Ends s (.ok ()) s := by
  unfold Ends
  rw [run_tellIf]
  exact ⟨rfl, rfl⟩

theorem Ends.lift (r : Except Fault α) (s : σ) : (liftM r : Act σ α).Ends s r s := by
  unfold Ends
  rw [run_lift]
  exact ⟨rfl, rfl⟩

theorem Ends.lift_of_eq {r r' : Except Fault α} (h : r = r') (s : σ) : (liftM r : Act σ α).Ends s r' s := h ▸ Ends.lift r s

/-- What is made of a value goes on as a computation without a state. -/
theorem Ends.bind_lift {a : Act σ α} {s s' : σ} {r : Except Fault α} (h : a.Ends s r s') (f : α → Except Fault β) :
    (a >>= fun v => (liftM (f v) : Act σ β)).Ends s (r >>= f) s' := by
  cases r with
  | error fault => exact h.bind_error
  | ok v => exact h.bind (Ends.lift (f v) s')

/-- On a part of the state an action ends as it does alone, and what it leaves replaces the part. -/
theorem Ends.onPart {τ : Type} {part : τ → σ} {replace : τ → σ → τ} {a : Act σ α} {t : τ} {r : Except Fault α} {s' : σ}
    (h : a.Ends (part t) r s') : (a.onPart part replace).Ends t r (replace t s') := by
  obtain ⟨rfl, rfl⟩ := h
  exact ⟨rfl, rfl⟩

/-! ## Contracts -/

/-- From a state with `pre` the action ends in a value and a state with `post`, or in a fault and a state with `bad`. -/
def Meets (pre : σ → Prop) (a : Act σ α) (post : α → σ → Prop) (bad : Fault → σ → Prop) : Prop :=
  ∀ s, pre s → (a.run s).Meets post bad

variable {pre : σ → Prop} {post : α → σ → Prop} {bad : Fault → σ → Prop}

/-- An exact end in a value is judged by what is promised of values. -/
theorem Ends.meets_ok {a : Act σ α} {s s' : σ} {v : α} (h : a.Ends s (.ok v) s') (hpost : post v s') :
    (a.run s).Meets post bad := by
  unfold Outcome.Meets
  rw [h.1, h.2]
  exact hpost

/-- An exact end in a fault is judged by what is promised of faults. -/
theorem Ends.meets_error {a : Act σ α} {s s' : σ} {fault : Fault} (h : a.Ends s (.error fault) s') (hbad : bad fault s') :
    (a.run s).Meets post bad := by
  unfold Outcome.Meets
  rw [h.1, h.2]
  exact hbad

/-- What was promised of a value. -/
theorem Meets.of_ok {a : Act σ α} {s : σ} {v : α} (h : a.Meets pre post bad) (hs : pre s) (hv : (a.run s).result = .ok v) :
    post v (a.run s).state := by
  have h1 := h s hs
  unfold Outcome.Meets at h1
  rwa [hv] at h1

/-- What was promised of a fault. -/
theorem Meets.of_error {a : Act σ α} {s : σ} {fault : Fault} (h : a.Meets pre post bad) (hs : pre s)
    (hf : (a.run s).result = .error fault) : bad fault (a.run s).state := by
  have h1 := h s hs
  unfold Outcome.Meets at h1
  rwa [hf] at h1

/-- What does not speak of the state may be assumed outside of the contract. -/
theorem Meets.assume {a : Act σ α} {p : Prop} (h : p → a.Meets pre post bad) : a.Meets (fun s => p ∧ pre s) post bad :=
  fun s hs => h hs.1 s hs.2

/-- A contract for each of several things that may hold is one for any of them. -/
theorem Meets.exists {ι : Type} {a : Act σ α} {pre : ι → σ → Prop} (h : ∀ i, a.Meets (pre i) post bad) :
    a.Meets (fun s => ∃ i, pre i s) post bad := fun s ⟨i, hs⟩ => h i s hs

/-- A contract for either of two properties is one for their disjunction. -/
theorem Meets.or {a : Act σ α} {pre' : σ → Prop} (h : a.Meets pre post bad) (h' : a.Meets pre' post bad) :
    a.Meets (fun s => pre s ∨ pre' s) post bad := fun s hs => hs.elim (h s) (h' s)

/-- What follows an action starts from what the action promises. -/
theorem Meets.bind {a : Act σ α} {f : α → Act σ β} {mid : α → σ → Prop} {post : β → σ → Prop}
    (ha : a.Meets pre mid bad) (hf : ∀ v, (f v).Meets (mid v) post bad) : (a >>= f).Meets pre post bad := by
  intro s hs
  have h1 := ha s hs
  rw [run_bind]
  revert h1
  rcases a.run s with ⟨_ | v, s', log⟩ <;> intro h1
  · exact h1
  · exact hf v s' h1

/-- What is promised may be weakened. -/
theorem Meets.weaken {a : Act σ α} {post' : α → σ → Prop} {bad' : Fault → σ → Prop} (h : a.Meets pre post bad)
    (hpost : ∀ v s, post v s → post' v s) (hbad : ∀ f s, bad f s → bad' f s) : a.Meets pre post' bad' := by
  intro s hs
  rcases hresult : (a.run s).result with fault | v
  · exact Ends.meets_error ⟨hresult, rfl⟩ (hbad _ _ (h.of_error hs hresult))
  · exact Ends.meets_ok ⟨hresult, rfl⟩ (hpost _ _ (h.of_ok hs hresult))

/-- What is promised of values may be weakened on its own. -/
theorem Meets.imp {a : Act σ α} {post' : α → σ → Prop} (h : a.Meets pre post bad) (hpost : ∀ v s, post v s → post' v s) :
    a.Meets pre post' bad :=
  h.weaken hpost fun _ _ hbad => hbad

/-- What is required may be strengthened. -/
theorem Meets.requiring {a : Act σ α} {pre' : σ → Prop} (h : a.Meets pre post bad) (hpre : ∀ s, pre' s → pre s) :
    a.Meets pre' post bad := fun s hs => h s (hpre s hs)

theorem Meets.done {v : α} (h : ∀ s, pre s → post v s) : (pure v : Act σ α).Meets pre post bad := h

theorem Meets.fail {f : Fault} (h : ∀ s, pre s → bad f s) : (fail f : Act σ α).Meets pre post bad := h

/-- A computation without a state leaves the state alone. -/
theorem Meets.lift {r : Except Fault α} (hok : ∀ v, r = .ok v → ∀ s, pre s → post v s)
    (hbad : ∀ f, r = .error f → ∀ s, pre s → bad f s) : (liftM r : Act σ α).Meets pre post bad := by
  intro s hs
  rw [run_lift]
  cases r with
  | ok v => exact hok v rfl s hs
  | error f => exact hbad f rfl s hs

/-- Telling of something leaves the state alone. -/
theorem Meets.tell (label : σ → String) (event : Event) : (tell label event).Meets pre (fun _ => pre) bad := fun _ hs => hs

theorem Meets.tellIf (cause : Bool) (label : σ → String) (event : Event) :
    (tellIf cause label event).Meets pre (fun _ => pre) bad := by
  intro s hs
  rw [run_tellIf]
  exact hs

/-- A value in which the action ends from every such state is a contract. -/
theorem Meets.of_ends {a : Act σ α} (h : ∀ s, pre s → ∃ v s', a.Ends s (.ok v) s' ∧ post v s') : a.Meets pre post bad := by
  intro s hs
  obtain ⟨v, s', hends, hpost⟩ := h s hs
  exact hends.meets_ok hpost

/-- An action with no fault to end in ends in a value. -/
theorem Meets.ends {a : Act σ α} {s : σ} (h : a.Meets pre post fun _ _ => False) (hs : pre s) :
    ∃ v s', a.Ends s (.ok v) s' ∧ post v s' := by
  rcases hresult : (a.run s).result with fault | v
  · exact (h.of_error hs hresult).elim
  · exact ⟨v, _, ⟨hresult, rfl⟩, h.of_ok hs hresult⟩

/-- What is made of a value does not count where an action ends in a fault. -/
theorem Meets.bind_done {a : Act σ α} (h : a.Meets pre post bad) (f : α → β) :
    (a >>= fun v => pure (f v)).Meets pre (fun _ _ => True) bad :=
  h.bind fun _ => Meets.done fun _ _ => trivial

/-- What an action leaves, when it ends in a value, is where the next one starts. -/
theorem Ends.bind_meets {a : Act σ α} {f : α → Act σ β} {post : β → σ → Prop} {s s' : σ} {v : α} (h : a.Ends s (.ok v) s')
    (hf : ((f v).run s').Meets post bad) : ((a >>= f).run s).Meets post bad := by
  have hpre : a.Meets (fun t => t = s) (fun w t => w = v ∧ t = s') bad := by
    rintro t rfl
    exact h.meets_ok ⟨rfl, rfl⟩
  refine hpre.bind (fun w => ?_) s rfl
  rintro t ⟨rfl, rfl⟩
  exact hf

/-! ## Invariants -/

/-- The property of the state outlives the action, however it ends. -/
def Keeps (inv : σ → Prop) (a : Act σ α) : Prop := ∀ s, inv s → inv (a.run s).state

variable {inv : σ → Prop}

/-- An action keeps what holds wherever it ends. -/
theorem Keeps.of_ends {a : Act σ α} (h : ∀ s, inv s → ∃ r s', a.Ends s r s' ∧ inv s') : a.Keeps inv := by
  intro s hs
  obtain ⟨r, s', ⟨-, rfl⟩, hs'⟩ := h s hs
  exact hs'

/-- What an action keeps holds where it ends. -/
theorem Keeps.ends {a : Act σ α} (h : a.Keeps inv) {s : σ} (hs : inv s) : ∃ r s', a.Ends s r s' ∧ inv s' :=
  ⟨_, _, Ends.of_run a s, h s hs⟩

/-- What an action keeps it promises, however it ends. -/
theorem Keeps.meets {a : Act σ α} (h : a.Keeps inv) : a.Meets inv (fun _ => inv) fun _ => inv := by
  intro s hs
  have h1 := h s hs
  unfold Outcome.Meets
  split
  · exact h1
  · exact h1

/-- What two actions keep their sequence keeps. -/
theorem Keeps.bind {a : Act σ α} {f : α → Act σ β} (ha : a.Keeps inv) (hf : ∀ v, (f v).Keeps inv) :
    (a >>= f).Keeps inv := by
  intro s hs
  have h1 := ha s hs
  rw [run_bind]
  revert h1
  rcases a.run s with ⟨_ | v, s', log⟩ <;> intro h1
  · exact h1
  · exact hf v s' h1

theorem Keeps.done (v : α) : (pure v : Act σ α).Keeps inv := fun _ h => h

theorem Keeps.fail (f : Fault) : (fail f : Act σ α).Keeps inv := fun _ h => h

theorem Keeps.look (f : σ → α) : (look f).Keeps inv := fun _ h => h

theorem Keeps.tell (label : σ → String) (event : Event) : (tell label event).Keeps inv := fun _ h => h

theorem Keeps.tellIf (cause : Bool) (label : σ → String) (event : Event) : (tellIf cause label event).Keeps inv := by
  intro s h
  rw [run_tellIf]
  exact h

theorem Keeps.lift (r : Except Fault α) : (liftM r : Act σ α).Keeps inv := by
  intro s h
  rw [run_lift]
  exact h

theorem Keeps.attempt {a : Act σ α} (h : a.Keeps inv) : a.attempt.Keeps inv := h

/-! ## Couplings -/

/-- From related states the two actions end alike. -/
def Coupled (R : σ → τ → Prop) (excused : Fault → Prop) (V : α → β → Prop) (a : Act σ α) (b : Act τ β) : Prop :=
  ∀ s t, R s t → Outcome.Alike R excused V (a.run s) (b.run t)

variable {R : σ → τ → Prop} {excused : Fault → Prop} {V : α → β → Prop}

/-- Actions that follow coupled actions, and are coupled for related values, are coupled as a whole. -/
theorem Coupled.bind {a : Act σ α} {b : Act τ β} {f : α → Act σ γ} {g : β → Act τ δ} {W : γ → δ → Prop}
    (h : Coupled R excused V a b) (hfg : ∀ v w, V v w → Coupled R excused W (f v) (g w)) :
    Coupled R excused W (a >>= f) (b >>= g) := by
  intro s t hst
  have h1 := h s t hst
  rw [run_bind, run_bind]
  revert h1
  rcases a.run s with ⟨x | v, s', log⟩ <;> rcases b.run t with ⟨y | w, t', log'⟩ <;> intro h1
  · exact h1
  · rcases hg : ((g w).run t').result with _ | _ <;>
      simp only [Outcome.Alike, Outcome.andThen_error, Outcome.andThen_ok, Outcome.after_result, hg]
    · exact Or.inl h1
    · exact h1
  · exact h1.elim
  · exact hfg v w h1.1 s' t' h1.2

theorem Coupled.done {v : α} {w : β} (h : V v w) : Coupled R excused V (pure v) (pure w) := fun _ _ hst => ⟨h, hst⟩

theorem Coupled.fail (f : Fault) : Coupled R excused V (fail f : Act σ α) (fail f : Act τ β) :=
  fun _ _ hst => Or.inr ⟨rfl, hst⟩

/-- An excused fault stands beside anything. -/
theorem Coupled.excuse {f : Fault} (h : excused f) (b : Act τ β) : Coupled R excused V (Act.fail f : Act σ α) b := by
  intro s t _
  rcases hb : (b.run t).result with _ | _ <;> simp only [Outcome.Alike, hb]
  · exact Or.inl h
  · exact h

theorem Coupled.look {f : σ → α} {g : τ → β} (h : ∀ s t, R s t → V (f s) (g t)) :
    Coupled R excused V (look f) (look g) := fun s t hst => ⟨h s t hst, hst⟩

theorem Coupled.change {f : σ → σ} {g : τ → τ} (h : ∀ s t, R s t → R (f s) (g t)) :
    Coupled R excused Eq (change f) (change g) := fun s t hst => ⟨rfl, h s t hst⟩

theorem Coupled.tell (label : σ → String) (label' : τ → String) (event event' : Event) :
    Coupled R excused Eq (tell label event) (tell label' event') := fun _ _ hst => ⟨rfl, hst⟩

theorem Coupled.tellIf (cause cause' : Bool) (label : σ → String) (label' : τ → String) (event event' : Event) :
    Coupled R excused Eq (tellIf cause label event) (tellIf cause' label' event') := by
  intro s t hst
  rw [run_tellIf, run_tellIf]
  exact ⟨rfl, hst⟩

/-- What the right side tells does not count. -/
theorem Coupled.tellRight {a : Act σ α} {b : Act τ β} (h : Coupled R excused V a b) (label : τ → String) (event : Event) :
    Coupled R excused V a (Act.tell label event >>= fun _ => b) := h

theorem Coupled.lift (r : Except Fault α) : Coupled R excused Eq (liftM r : Act σ α) (liftM r : Act τ α) := by
  intro s t hst
  rw [run_lift, run_lift]
  cases r with
  | ok v => exact ⟨rfl, hst⟩
  | error f => exact Or.inr ⟨rfl, hst⟩

/-- The same action on equal parts of the states. -/
theorem Coupled.onPart {υ : Type} {part : σ → υ} {replace : σ → υ → σ} {part' : τ → υ} {replace' : τ → υ → τ}
    (a : Act υ α) (hpart : ∀ s t, R s t → part s = part' t)
    (hreplace : ∀ s t x, R s t → R (replace s x) (replace' t x)) :
    Coupled R excused Eq (a.onPart part replace) (a.onPart part' replace') := by
  intro s t hst
  rw [run_onPart, run_onPart, hpart s t hst]
  rcases a.run (part' t) with ⟨f | v, x, log⟩
  · exact Or.inr ⟨rfl, hreplace s t x hst⟩
  · exact ⟨rfl, hreplace s t x hst⟩

/-- Without an excuse the left side's outcome is the right side's, also when it is handed over. -/
theorem Coupled.attempt {a : Act σ α} {b : Act τ α} (h : Coupled R (fun _ => False) Eq a b) :
    Coupled R (fun _ => False) Eq a.attempt b.attempt := by
  intro s t hst
  have h1 := h s t hst
  rw [run_attempt, run_attempt]
  revert h1
  rcases a.run s with ⟨x | v, s', log⟩ <;> rcases b.run t with ⟨y | w, t', log'⟩ <;> intro h1
  · obtain h1 | ⟨rfl, h1⟩ := h1
    · exact h1.elim
    · exact ⟨rfl, h1⟩
  · exact False.elim h1
  · exact False.elim h1
  · exact ⟨congrArg Except.ok h1.1, h1.2⟩

/-- Exact ends in the same value or fault are alike. -/
theorem Ends.alike {a : Act σ α} {b : Act τ α} {s s' : σ} {t t' : τ} {r : Except Fault α} (h : a.Ends s r s')
    (h' : b.Ends t r t') (hR : R s' t') : Outcome.Alike R excused Eq (a.run s) (b.run t) := by
  obtain ⟨hr, rfl⟩ := h
  obtain ⟨hr', rfl⟩ := h'
  unfold Outcome.Alike
  rw [hr, hr']
  cases r with
  | ok v => exact ⟨rfl, hR⟩
  | error f => exact Or.inr ⟨rfl, hR⟩

/-- An invariant of the left side may be relied on, and added to what relates the states. -/
theorem Coupled.relying {a : Act σ α} {b : Act τ β} {inv : σ → Prop}
    (h : ∀ s t, R s t → inv s → Outcome.Alike R (fun _ => False) V (a.run s) (b.run t)) (hinv : a.Keeps inv) :
    Coupled (fun s t => R s t ∧ inv s) (fun _ => False) V a b := by
  intro s t hst
  have h1 := h s t hst.1 hst.2
  have h2 := hinv s hst.2
  revert h1 h2
  rcases a.run s with ⟨x | v, s', log⟩ <;> rcases b.run t with ⟨y | w, t', log'⟩ <;> intro h1 h2
  · obtain h1 | ⟨rfl, h1⟩ := h1
    · exact h1.elim
    · exact Or.inr ⟨rfl, h1, h2⟩
  · exact h1
  · exact h1
  · exact ⟨h1.1, h1.2, h2⟩

/-- An invariant of the left side may be added to what relates the states. -/
theorem Coupled.keeping {a : Act σ α} {b : Act τ β} {inv : σ → Prop} (h : Coupled R (fun _ => False) V a b)
    (hinv : a.Keeps inv) : Coupled (fun s t => R s t ∧ inv s) (fun _ => False) V a b :=
  Coupled.relying (fun s t hst _ => h s t hst) hinv

/-! ## Congruences -/

/-- A relation between actions that every way to build an action respects. A statement about single actions is one that looks
at its left side only. -/
structure Congruence (P : ∀ {α : Type}, Act σ α → Act σ α → Prop) : Prop where
  done : ∀ {α : Type} (v : α), P (pure v : Act σ α) (pure v)
  fail : ∀ {α : Type} (f : Fault), P (Act.fail f : Act σ α) (Act.fail f)
  bind : ∀ {α β : Type} {a b : Act σ α} {f g : α → Act σ β}, P a b → (∀ v, P (f v) (g v)) → P (a >>= f) (b >>= g)
  tell : ∀ (label : σ → String) (event : Event), P (Act.tell label event) (Act.tell label event)
  tellIf : ∀ (cause : Bool) (label : σ → String) (event : Event),
    P (Act.tellIf cause label event) (Act.tellIf cause label event)
  lift : ∀ {α : Type} (r : Except Fault α), P (liftM r : Act σ α) (liftM r)
  attempt : ∀ {α : Type} {a b : Act σ α}, P a b → P a.attempt b.attempt

/-- Keeping an invariant. -/
theorem Keeps.congruence (inv : σ → Prop) : Congruence fun a _ => a.Keeps inv where
  done := Keeps.done
  fail := Keeps.fail
  bind := Keeps.bind
  tell := Keeps.tell
  tellIf := Keeps.tellIf
  lift := Keeps.lift
  attempt := Keeps.attempt

/-- Ending alike, without an excuse. -/
theorem Coupled.congruence (R : σ → σ → Prop) : Congruence (Coupled R (fun _ => False) Eq) where
  done _ := Coupled.done rfl
  fail := Coupled.fail
  bind h hfg := h.bind fun v _ hv => hv ▸ hfg v
  tell label event := Coupled.tell label label event event
  tellIf cause label event := Coupled.tellIf cause cause label label event event
  lift := Coupled.lift
  attempt := Coupled.attempt

end Act

-- Whether two outcomes are alike is not to be found out by running the actions.
attribute [irreducible] Outcome.Alike

end NfcHost
