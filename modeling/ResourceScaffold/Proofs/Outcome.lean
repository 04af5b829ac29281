import Mathlib.Data.List.Forall2
import ResourceScaffold.Run

/-!
# Results and the conditions under which they return

* `bind_eq_ok`, `mapM_eq_ok`: a sequence of steps returns iff each of its steps does.
* `Decides about x p`: the result `x` returns exactly if `p` holds, and otherwise it is a defect of the entity named
  `about`; in no case is it a misuse. The conditions of a computation are put together from those of its steps by
  `Decides.bind` and `Decides.mapM`.
* `Run.outcome_andThen`, `Run.outcome_all`: what a run returns, without its events.
-/

namespace ResourceScaffold

/-! ## Lists related element by element -/

section forall₂

variable {α β γ : Type} {R : α → β → Prop} {xs : List α} {ys : List β}

/-- Each element of the first list is related to one of the second. -/
theorem exists_right_of_forall₂ (h : List.Forall₂ R xs ys) {x : α} (member : x ∈ xs) : ∃ y ∈ ys, R x y := by
  induction h with
  | nil => cases member
  | cons related _ ih =>
      rcases List.mem_cons.1 member with rfl | later
      · exact ⟨_, List.mem_cons_self, related⟩
      · obtain ⟨y, hy, found⟩ := ih later
        exact ⟨y, List.mem_cons_of_mem _ hy, found⟩

/-- Each element of the second list is related to one of the first. -/
theorem exists_left_of_forall₂ (h : List.Forall₂ R xs ys) {y : β} (member : y ∈ ys) : ∃ x ∈ xs, R x y :=
  exists_right_of_forall₂ h.flip member

/-- A list whose elements are all related to something is related to a list. -/
theorem exists_forall₂ (h : ∀ x ∈ xs, ∃ y, R x y) : ∃ ys, List.Forall₂ R xs ys := by
  induction xs with
  | nil => exact ⟨[], .nil⟩
  | cons x rest ih =>
      obtain ⟨y, related⟩ := h x List.mem_cons_self
      obtain ⟨ys, others⟩ := ih fun z member => h z (List.mem_cons_of_mem _ member)
      exact ⟨y :: ys, .cons related others⟩

/-- What related elements have in common is the same along both lists. -/
theorem map_eq_map_of_forall₂ {f : α → γ} {g : β → γ} (h : List.Forall₂ R xs ys) (same : ∀ x y, R x y → f x = g y) :
    xs.map f = ys.map g := by
  induction h with
  | nil => rfl
  | cons related _ ih => rw [List.map_cons, List.map_cons, same _ _ related, ih]

/-- Two lists that depend on the elements of a third one are made together if their elements are. -/
theorem exists_forall₂_of_both {δ : Type} {S : α → γ → Prop} {zs : List γ} {T : α → δ → Prop} {f : δ → β} {g : δ → γ}
    (h : List.Forall₂ R xs ys) (h' : List.Forall₂ S xs zs)
    (both : ∀ x y z, x ∈ xs → R x y → S x z → ∃ d, T x d ∧ f d = y ∧ g d = z) :
    ∃ ds, List.Forall₂ T xs ds ∧ ds.map f = ys ∧ ds.map g = zs := by
  induction h generalizing zs with
  | nil =>
      cases h'
      exact ⟨[], .nil, rfl, rfl⟩
  | cons related _ ih =>
      cases h' with
      | cons related' others =>
          obtain ⟨d, made, rfl, rfl⟩ := both _ _ _ List.mem_cons_self related related'
          obtain ⟨ds, all, rfl, rfl⟩ := ih others fun x y z member => both x y z (List.mem_cons_of_mem _ member)
          exact ⟨d :: ds, .cons made all, rfl, rfl⟩

/-- Each pair along two lists is related. -/
theorem exists_of_mem_zipWith {f : α → β → γ} {z : γ} (h : List.Forall₂ R xs ys) (member : z ∈ List.zipWith f xs ys) :
    ∃ x ∈ xs, ∃ y, R x y ∧ f x y = z := by
  induction h with
  | nil => cases member
  | cons related _ ih =>
      rcases List.mem_cons.1 member with rfl | later
      · exact ⟨_, List.mem_cons_self, _, related, rfl⟩
      · obtain ⟨x, hx, y, found, same⟩ := ih later
        exact ⟨x, List.mem_cons_of_mem _ hx, y, found, same⟩

/-- Each element of the first list is part of a pair. -/
theorem mem_zipWith_of_forall₂ {f : α → β → γ} (h : List.Forall₂ R xs ys) {x : α} (member : x ∈ xs) :
    ∃ y, R x y ∧ f x y ∈ List.zipWith f xs ys := by
  induction h with
  | nil => cases member
  | cons related _ ih =>
      rcases List.mem_cons.1 member with rfl | later
      · exact ⟨_, related, List.mem_cons_self⟩
      · obtain ⟨y, found, paired⟩ := ih later
        exact ⟨y, found, List.mem_cons_of_mem _ paired⟩

/-- The second elements of two related lists are the second list. -/
theorem zipWith_right_of_forall₂ (h : List.Forall₂ R xs ys) : List.zipWith (fun _ y => y) xs ys = ys := by
  induction h with
  | nil => rfl
  | cons _ _ ih => rw [List.zipWith_cons_cons, ih]

/-- Two relations along three lists, one after the other. -/
theorem forall₂_comp {S : β → γ → Prop} {zs : List γ} (h : List.Forall₂ R xs ys) (h' : List.Forall₂ S ys zs) :
    List.Forall₂ (fun x z => ∃ y, R x y ∧ S y z) xs zs := by
  induction h generalizing zs with
  | nil =>
      cases h'
      exact .nil
  | cons related _ ih =>
      cases h' with
      | cons related' others => exact .cons ⟨_, related, related'⟩ (ih others)

end forall₂

/-- An element of a list with what is before it is the first one or one of the others. -/
theorem exists_append_cons_iff {α : Type} {p : List α → α → Prop} {x : α} {xs : List α} :
    (∃ front y rest, x :: xs = front ++ y :: rest ∧ p front y) ↔
      p [] x ∨ ∃ front y rest, xs = front ++ y :: rest ∧ p (x :: front) y := by
  constructor
  · rintro ⟨front, y, rest, list, holds⟩
    cases front with
    | nil =>
        cases list
        exact .inl holds
    | cons first front =>
        cases list
        exact .inr ⟨front, y, rest, rfl, holds⟩
  · rintro (holds | ⟨front, y, rest, rfl, holds⟩)
    · exact ⟨[], x, xs, rfl, holds⟩
    · exact ⟨x :: front, y, rest, rfl, holds⟩

/-! ## Sequences of steps -/

section steps

variable {ε α β γ : Type}

-- A step that returns is followed by the next one, and a step that fails ends the computation.

@[simp] theorem ok_bind (a : α) (f : α → Except ε β) : (Except.ok a >>= f) = f a := rfl

@[simp] theorem error_bind (e : ε) (f : α → Except ε β) : ((Except.error e : Except ε α) >>= f) = .error e := rfl

@[simp] theorem pure_eq_ok (a : α) : (pure a : Except ε α) = .ok a := rfl

/-- A result is fine iff it returns something. -/
theorem isOk_iff {x : Except ε α} : x.isOk = true ↔ ∃ a, x = .ok a := by
  cases x <;> simp [Except.isOk, Except.toBool]

/-- A result that is there as an option returns. -/
theorem eq_ok_of_toOption {x : Except ε α} {a : α} (h : x.toOption = some a) : x = .ok a := by
  cases x with
  | error e => cases h
  | ok b => exact congrArg Except.ok (Option.some.inj h)

/-- A step followed by another one returns iff both do. -/
theorem bind_eq_ok {x : Except ε α} {f : α → Except ε β} {b : β} :
    (x >>= f) = .ok b ↔ ∃ a, x = .ok a ∧ f a = .ok b := by
  cases x with
  | error e => simp
  | ok a => simp

/-- A step followed by another one fails iff one of them does. -/
theorem bind_eq_error {x : Except ε α} {f : α → Except ε β} {e : ε} :
    (x >>= f) = .error e ↔ x = .error e ∨ ∃ a, x = .ok a ∧ f a = .error e := by
  cases x with
  | error e' => simp
  | ok a => simp

/-- The steps on the elements of a list return iff each of them does, and in the order of the list. -/
theorem mapM_eq_ok {f : α → Except ε β} {xs : List α} {ys : List β} :
    xs.mapM f = .ok ys ↔ List.Forall₂ (fun x y => f x = .ok y) xs ys := by
  induction xs generalizing ys with
  | nil => simp [eq_comm]
  | cons x xs ih =>
      rw [List.mapM_cons, bind_eq_ok, List.forall₂_cons_left_iff]
      constructor
      · rintro ⟨y, hy, rest⟩
        obtain ⟨ys', hys', last⟩ := bind_eq_ok.1 rest
        cases last
        exact ⟨y, ys', hy, ih.1 hys', rfl⟩
      · rintro ⟨y, ys', hy, hys', rfl⟩
        exact ⟨y, hy, bind_eq_ok.2 ⟨ys', ih.2 hys', rfl⟩⟩

/-- Each result of the steps on a list is that of one of its elements. -/
theorem exists_mem_of_mapM_eq_ok {f : α → Except ε β} {xs : List α} {ys : List β} (h : xs.mapM f = .ok ys) {y : β}
    (member : y ∈ ys) : ∃ x ∈ xs, f x = .ok y :=
  exists_left_of_forall₂ (mapM_eq_ok.1 h) member

/-- Each element of a list whose steps all return has one of the results. -/
theorem mem_results_of_mapM_eq_ok {f : α → Except ε β} {xs : List α} {ys : List β} (h : xs.mapM f = .ok ys) {x : α}
    (member : x ∈ xs) : ∃ y ∈ ys, f x = .ok y :=
  exists_right_of_forall₂ (mapM_eq_ok.1 h) member

/-- A list whose elements all pass a step passes it as a whole. -/
theorem exists_mapM_eq_ok {f : α → Except ε β} {xs : List α} (h : ∀ x ∈ xs, ∃ y, f x = .ok y) :
    ∃ ys, xs.mapM f = .ok ys := by
  induction xs with
  | nil => exact ⟨[], rfl⟩
  | cons x xs ih =>
      obtain ⟨y, hy⟩ := h x List.mem_cons_self
      obtain ⟨ys, hys⟩ := ih fun z hz => h z (List.mem_cons_of_mem _ hz)
      exact ⟨y :: ys, by simp [List.mapM_cons, hy, hys]⟩

/-- Steps with the same results along two lists have the same results as a whole. -/
theorem mapM_eq_mapM_of_forall₂ {f : α → Except ε γ} {g : β → Except ε γ} {xs : List α} {ys : List β}
    (h : List.Forall₂ (fun x y => f x = g y) xs ys) : xs.mapM f = ys.mapM g := by
  induction h with
  | nil => rfl
  | cons same _ ih => rw [List.mapM_cons, List.mapM_cons, same, ih]

/-- Steps that all return have their results in the order of the list. -/
theorem mapM_eq_ok_map {f : α → Except ε β} {g : α → β} {xs : List α} (h : ∀ x ∈ xs, f x = .ok (g x)) :
    xs.mapM f = .ok (xs.map g) :=
  mapM_eq_ok.2 (List.forall₂_map_right_iff.2 (List.forall₂_same.2 h))

/-- Steps along a list fail like the first of them that does. -/
theorem mapM_eq_error {f : α → Except ε β} {front rest : List α} {x : α} {e : ε} (returns : ∀ y ∈ front, ∃ b, f y = .ok b)
    (fails : f x = .error e) : (front ++ x :: rest).mapM f = .error e := by
  induction front with
  | nil => rw [List.nil_append, List.mapM_cons, fails, error_bind]
  | cons y front ih =>
      obtain ⟨⟨b, first⟩, others⟩ := List.forall_mem_cons.1 returns
      rw [List.cons_append, List.mapM_cons, first, ok_bind, ih others, error_bind]

/-- Steps along a list that fail do so like one of them, and those before it return. -/
theorem exists_of_mapM_eq_error {f : α → Except ε β} {xs : List α} {e : ε} (h : xs.mapM f = .error e) :
    ∃ front x rest, xs = front ++ x :: rest ∧ (∀ y ∈ front, ∃ b, f y = .ok b) ∧ f x = .error e := by
  induction xs with
  | nil => cases h
  | cons x xs ih =>
      rw [List.mapM_cons] at h
      rcases bind_eq_error.1 h with first | ⟨b, step, later⟩
      · exact ⟨[], x, xs, rfl, by simp, first⟩
      · rcases bind_eq_error.1 later with others | ⟨bs, -, returned⟩
        · obtain ⟨front, y, rest, rfl, returns, fails⟩ := ih others
          exact ⟨x :: front, y, rest, rfl, List.forall_mem_cons.2 ⟨⟨b, step⟩, returns⟩, fails⟩
        · cases returned

/-- Steps with the same results for each element have the same results along a list. -/
theorem mapM_congr {f g : α → Except ε β} {xs : List α} (h : ∀ x ∈ xs, f x = g x) : xs.mapM f = xs.mapM g :=
  mapM_eq_mapM_of_forall₂ (List.forall₂_same.2 h)

/-- Steps of folds with the same results for each element fold to the same. -/
theorem foldlM_congr {f g : β → α → Except ε β} {xs : List α} (h : ∀ b, ∀ x ∈ xs, f b x = g b x) (b : β) :
    xs.foldlM f b = xs.foldlM g b := by
  induction xs generalizing b with
  | nil => rfl
  | cons x rest ih =>
      have later : ∀ b', rest.foldlM f b' = rest.foldlM g b' :=
        ih fun b' y member => h b' y (List.mem_cons_of_mem _ member)
      rw [List.foldlM_cons, List.foldlM_cons, h b x List.mem_cons_self]
      simp only [later]

/-- A fold whose steps all return does so as a whole. -/
theorem exists_foldlM_eq_ok {f : β → α → Except ε β} {xs : List α} (h : ∀ b, ∀ x ∈ xs, ∃ b', f b x = .ok b') (b : β) :
    ∃ b', xs.foldlM f b = .ok b' := by
  induction xs generalizing b with
  | nil => exact ⟨b, rfl⟩
  | cons x xs ih =>
      obtain ⟨b₁, step⟩ := h b x List.mem_cons_self
      obtain ⟨b₂, later⟩ := ih (fun b z hz => h b z (List.mem_cons_of_mem _ hz)) b₁
      exact ⟨b₂, by rw [List.foldlM_cons, step, ok_bind, later]⟩

/-- A fold that returns keeps what each of its steps keeps. -/
theorem foldlM_keeps {f : β → α → Except ε β} {p : β → Prop} {xs : List α}
    (h : ∀ b, ∀ x ∈ xs, ∀ b', p b → f b x = .ok b' → p b')
    {b b' : β} (holds : p b) (run : xs.foldlM f b = .ok b') : p b' := by
  induction xs generalizing b with
  | nil =>
      cases run
      exact holds
  | cons x rest ih =>
      rw [List.foldlM_cons] at run
      obtain ⟨next, first, later⟩ := bind_eq_ok.1 run
      have kept := h b x List.mem_cons_self next holds first
      exact ih (fun b y member => h b y (List.mem_cons_of_mem _ member)) kept later

end steps

/-! ## Conditions -/

/-- The name of the entity that a defect is about. -/
def Defect.about : Defect → Value
  | .entityName name _ => name
  | .relationTarget entity _ _ => entity
  | .field entity _ _ => entity

/-- The result returns if `p` holds, and is a defect of the entity named `about` if `p` fails. -/
def Decides {α : Type} (about : Value) (x : Except Fault α) (p : Prop) : Prop :=
  match x with
  | .ok _ => p
  | .error (.defect d) => d.about = about ∧ ¬ p
  | .error _ => False

namespace Decides

variable {α β : Type} {about : Value} {x : Except Fault α} {p q : Prop}

/-- A result decides a condition that holds. -/
theorem ok (a : α) (h : p) : Decides about (.ok a) p := h

/-- A defect of the entity decides a condition that fails. -/
theorem defect {d : Defect} (subject : d.about = about) (h : ¬ p) :
    Decides about (.error (.defect d) : Except Fault α) p :=
  ⟨subject, h⟩

/-- A condition may be stated otherwise. -/
theorem congr (h : Decides about x p) (same : p ↔ q) : Decides about x q := by
  rwa [← propext same]

/-- A result that returns decides every condition that holds. -/
theorem of_returns (h : ∃ a, x = .ok a) (holds : p) : Decides about x p := by
  obtain ⟨a, rfl⟩ := h
  exact holds

/-- The condition holds of a result that returns. -/
theorem holds_of_ok {a : α} (h : Decides about x p) (returned : x = .ok a) : p := by
  subst returned
  exact h

/-- The three ways in which a result can end are the two of a decision. -/
theorem cases (h : Decides about x p) :
    (p ∧ ∃ a, x = .ok a) ∨ (¬ p ∧ ∃ d : Defect, d.about = about ∧ x = .error (.defect d)) := by
  match x, h with
  | .ok a, h => exact .inl ⟨h, a, rfl⟩
  | .error (.defect d), ⟨subject, h⟩ => exact .inr ⟨h, d, subject, rfl⟩

/-- A result returns if its condition holds. -/
theorem returns (h : Decides about x p) (holds : p) : ∃ a, x = .ok a := by
  rcases h.cases with ⟨-, returned⟩ | ⟨fails, -⟩
  · exact returned
  · exact absurd holds fails

/-- It returns iff its condition holds. -/
theorem returns_iff (h : Decides about x p) : (∃ a, x = .ok a) ↔ p :=
  ⟨fun ⟨_, returned⟩ => h.holds_of_ok returned, h.returns⟩

/-- A step followed by another one, each with its condition. -/
theorem bind {f : α → Except Fault β} (h : Decides about x p)
    (next : ∀ a, x = .ok a → Decides about (f a) q) : Decides about (x >>= f) (p ∧ q) := by
  rcases h.cases with ⟨holds, a, rfl⟩ | ⟨fails, d, subject, rfl⟩
  · exact (next a rfl).congr (by simp [holds])
  · exact .defect subject fun both => fails both.1

/-- A step that returns, followed by another one. -/
theorem bind_of_returns {f : α → Except Fault β} (h : ∃ a, x = .ok a)
    (next : ∀ a, x = .ok a → Decides about (f a) q) : Decides about (x >>= f) q := by
  obtain ⟨a, rfl⟩ := h
  exact next a rfl

/-- The steps on the elements of a list return iff the condition of each of them holds. -/
theorem mapM {f : α → Except Fault β} {xs : List α} {r : α → Prop}
    (h : ∀ a ∈ xs, Decides about (f a) (r a)) : Decides about (xs.mapM f) (∀ a ∈ xs, r a) := by
  induction xs with
  | nil => exact .ok [] (by simp)
  | cons a xs ih =>
      rw [List.mapM_cons]
      have rest := ih fun b hb => h b (List.mem_cons_of_mem _ hb)
      refine (((h a List.mem_cons_self).bind fun b _ => ?_).congr List.forall_mem_cons.symm)
      exact (rest.bind fun bs _ => .ok (b :: bs) trivial).congr (by simp)

end Decides

/-! ## Runs -/

namespace Run

variable {α β : Type}

-- The outcome of a run is put together like a result.

@[simp] theorem outcome_result (a : α) : (result a).outcome = .ok a := rfl

@[simp] theorem outcome_ofExcept (x : Except Fault α) : (ofExcept x).outcome = x := rfl

@[simp] theorem outcome_report (e : Event) : (report e).outcome = .ok () := rfl

@[simp] theorem outcome_andThen (r : Run α) (next : α → Run β) :
    (r.andThen next).outcome = r.outcome >>= fun a => (next a).outcome := by
  cases h : r.outcome with
  | ok a => rw [andThen_ok h, ok_bind]
  | error e => rw [andThen_error h, error_bind]

@[simp] theorem outcome_all (rs : List (Run α)) : (all rs).outcome = .ok (rs.map outcome) := by
  induction rs with
  | nil => rfl
  | cons r rest ih => simp [all, ih, Except.map]

end Run

end ResourceScaffold
