import Mathlib.Data.List.Induction

/-!
# Runs

A system here is a state and a function that says what an act makes of it, and a run is a list of acts.
Nothing is assumed about who acts or in which order: all interleavings of all callers are just lists, so
a statement about every list of acts is a statement about every interleaving.

What a run has been through is its `history`: every act with the state it met. A law that speaks of
something that happened before is a law about a history and the state behind it, and `Run.invariant` is
the one induction that carries such a law: the act that comes last is added at the end.
-/

set_option autoImplicit false

namespace DurableJobs

/-- A moment of a run: an act and the state it meets. -/
structure Event (S A : Type) where
  before : S
  act : A

namespace Run

variable {S A : Type} (step : S → A → S)

/-- The state behind a run. -/
def final (start : S) (acts : List A) : S := acts.foldl step start

/-- The moments of a run, in order. -/
def history : S → List A → List (Event S A)
  | _, [] => []
  | s, a :: acts => ⟨s, a⟩ :: history (step s a) acts

variable {step}

@[simp] theorem final_nil (s : S) : final step s [] = s := rfl

@[simp] theorem final_cons (s : S) (a : A) (acts : List A) :
    final step s (a :: acts) = final step (step s a) acts := rfl

theorem final_append (s : S) (first rest : List A) :
    final step s (first ++ rest) = final step (final step s first) rest :=
  List.foldl_append

theorem history_append (s : S) (first rest : List A) :
    history step s (first ++ rest) =
      history step s first ++ history step (final step s first) rest := by
  induction first generalizing s with
  | nil => rfl
  | cons a first ih => exact congrArg (⟨s, a⟩ :: ·) (ih (step s a))

/-- The acts of a history are those of the run. -/
theorem map_act_history (s : S) (acts : List A) : (history step s acts).map (·.act) = acts := by
  induction acts generalizing s with
  | nil => rfl
  | cons a acts ih => exact congrArg (a :: ·) (ih (step s a))

/-- A law of histories and the states behind them holds after every run whose acts are allowed, if it
holds at the start and every allowed act keeps it. -/
theorem invariant {allowed : A → Prop} {law : List (Event S A) → S → Prop} {start : S}
    (base : law [] start)
    (next : ∀ h s a, allowed a → law h s → law (h ++ [⟨s, a⟩]) (step s a)) :
    ∀ acts, (∀ a ∈ acts, allowed a) → law (history step start acts) (final step start acts) := by
  intro acts
  induction acts using List.reverseRecOn with
  | nil => exact fun _ => base
  | append_singleton acts a ih =>
    intro hall
    rw [history_append, final_append]
    exact next _ _ _ (hall a (by simp)) (ih fun b hb => hall b (by simp [hb]))

/-- The same when each act is allowed in the light of what came before it. -/
theorem invariant_of_past {allowed : List (Event S A) → Event S A → Prop}
    {law : List (Event S A) → S → Prop} {start : S} (base : law [] start)
    (next : ∀ h s a, allowed h ⟨s, a⟩ → law h s → law (h ++ [⟨s, a⟩]) (step s a)) :
    ∀ acts, (∀ earlier e later, history step start acts = earlier ++ e :: later → allowed earlier e) →
      law (history step start acts) (final step start acts) := by
  intro acts
  induction acts using List.reverseRecOn with
  | nil => exact fun _ => base
  | append_singleton acts a ih =>
    intro hall
    rw [history_append] at hall
    rw [history_append, final_append]
    refine next _ _ _ (hall _ _ [] rfl) (ih fun earlier e later hsplit =>
      hall earlier e (later ++ history step (final step start acts) [a]) ?_)
    rw [hsplit, List.append_assoc, List.cons_append]

/-- A law of states holds behind a run if it holds at the start and every moment of the run keeps it. -/
theorem final_of_moments {law : S → Prop} {allowed : Event S A → Prop}
    (next : ∀ e : Event S A, allowed e → law e.before → law (step e.before e.act)) (s : S)
    (acts : List A) (h : law s) (hall : ∀ e ∈ history step s acts, allowed e) :
    law (final step s acts) := by
  induction acts generalizing s with
  | nil => exact h
  | cons a acts ih =>
    obtain ⟨hfirst, hrest⟩ := List.forall_mem_cons.mp hall
    exact ih (step s a) (next ⟨s, a⟩ hfirst h) hrest

/-- What holds at every moment of a history and at the next one holds at every moment with that one
added. -/
theorem forall_mem_snoc {p : Event S A → Prop} {history : List (Event S A)} {e : Event S A}
    (h : ∀ c ∈ history, p c) (he : p e) : ∀ c ∈ history ++ [e], p c :=
  List.forall_mem_append.mpr ⟨h, List.forall_mem_singleton.mpr he⟩

/-- A count along a history goes on with the moment that is added. -/
theorem countP_snoc (p : Event S A → Bool) (history : List (Event S A)) (e : Event S A) :
    (history ++ [e]).countP p = history.countP p + (p e).toNat := by
  rw [List.countP_append, List.countP_singleton]
  cases p e <;> rfl

theorem any_snoc (p : Event S A → Bool) (history : List (Event S A)) (e : Event S A) :
    (history ++ [e]).any p = (history.any p || p e) := by
  rw [List.any_append, List.any_cons, List.any_nil, Bool.or_false]

theorem filterMap_snoc {B : Type} (f : Event S A → Option B) (history : List (Event S A))
    (e : Event S A) : (history ++ [e]).filterMap f = history.filterMap f ++ (f e).toList := by
  rw [List.filterMap_append]
  cases h : f e <;> simp [h]

/-! ## Moments of a history

A history is cut where its run is cut, so whatever holds behind every run holds at every moment. -/

theorem history_eq_append {s : S} {acts : List A} {first rest : List (Event S A)}
    (h : history step s acts = first ++ rest) :
    ∃ before after, acts = before ++ after ∧ first = history step s before ∧
      rest = history step (final step s before) after := by
  induction first generalizing s acts with
  | nil => exact ⟨[], acts, rfl, rfl, h.symm⟩
  | cons e first ih =>
    cases acts with
    | nil => cases h
    | cons a acts =>
      obtain ⟨rfl, htail⟩ := List.cons.inj h
      obtain ⟨before, after, rfl, rfl, rfl⟩ := ih htail
      exact ⟨a :: before, after, rfl, rfl, rfl⟩

theorem history_eq_cons {s : S} {acts : List A} {e : Event S A} {rest : List (Event S A)}
    (h : history step s acts = e :: rest) :
    ∃ after, acts = e.act :: after ∧ e.before = s ∧ rest = history step (step s e.act) after := by
  cases acts with
  | nil => cases h
  | cons a acts =>
    obtain ⟨rfl, rfl⟩ := List.cons.inj h
    exact ⟨acts, rfl, rfl, rfl⟩

/-- What came before a moment is the history of a run that ends in the state the moment meets. -/
theorem history_split {s : S} {acts : List A} {earlier later : List (Event S A)} {e : Event S A}
    (h : history step s acts = earlier ++ e :: later) :
    ∃ before after, acts = before ++ e.act :: after ∧ earlier = history step s before ∧
      e.before = final step s before ∧ later = history step (step e.before e.act) after := by
  obtain ⟨before, rest, rfl, rfl, hrest⟩ := history_eq_append h
  obtain ⟨after, rfl, hbefore, rfl⟩ := history_eq_cons hrest.symm
  exact ⟨before, after, rfl, rfl, hbefore, by rw [hbefore]⟩

end Run

end DurableJobs
