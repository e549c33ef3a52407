import SequenceChart.Failure

/-!
# Steps that may fail

What is read, drawn or stored step by step is there only if every step succeeds.  So what came of it
is taken apart step by step, and how it can fail is seen from how the steps can.

## Main definitions

* `FailsOnly` — the kind of failures that something can have.

## Main statements

* `exists_of_bind_eq_ok` — steps that succeed one after the other.
* `FailsOnly.bind`, `FailsOnly.mapM` — steps fail as each of them does.
-/

set_option autoImplicit false
namespace SequenceChart

/-! ## Steps one after the other -/

section

variable {β γ ε : Type}

@[simp] theorem ok_bind (b : β) (next : β → Except ε γ) : (Except.ok b >>= next) = next b :=
  rfl

@[simp] theorem error_bind (e : ε) (next : β → Except ε γ) :
    (Except.error e >>= next) = Except.error e :=
  rfl

/-- If two steps succeed one after the other, each of them does. -/
theorem exists_of_bind_eq_ok {x : Except ε β} {next : β → Except ε γ} {c : γ}
    (h : (x >>= next) = .ok c) : ∃ b, x = .ok b ∧ next b = .ok c := by
  cases x with
  | error e => cases h
  | ok b => exact ⟨b, rfl, h⟩

/-- What is made of all members of a list is made of one of them each. -/
theorem exists_of_mem_mapM {make : β → Except ε γ} {bs : List β} {cs : List γ}
    (h : bs.mapM make = .ok cs) : ∀ c ∈ cs, ∃ b ∈ bs, make b = .ok c := by
  induction bs generalizing cs with
  | nil =>
    cases h
    exact fun c hc ↦ absurd hc List.not_mem_nil
  | cons b bs ih =>
    rw [List.mapM_cons] at h
    obtain ⟨c, hc, h⟩ := exists_of_bind_eq_ok h
    obtain ⟨cs, hcs, h⟩ := exists_of_bind_eq_ok h
    cases h
    refine List.forall_mem_cons.2 ⟨⟨b, List.mem_cons_self .., hc⟩, fun c' hc' ↦ ?_⟩
    obtain ⟨b', hb', hc'⟩ := ih hcs c' hc'
    exact ⟨b', List.mem_cons_of_mem _ hb', hc'⟩

end

/-! ## Failures -/

/-- Whenever something fails, the failure is of a certain kind. -/
def FailsOnly {β : Type} (kind : Failure → Prop) (x : Except Failure β) : Prop :=
  ∀ f, x = .error f → kind f

section

variable {β γ : Type} {kind : Failure → Prop} {x : Except Failure β}

theorem failsOnly_ok (b : β) : FailsOnly kind (.ok b) :=
  nofun

theorem FailsOnly.bind {next : β → Except Failure γ} (hx : FailsOnly kind x)
    (hnext : ∀ b, FailsOnly kind (next b)) : FailsOnly kind (x >>= next) := by
  intro f h
  cases x with
  | error e => exact hx f (congrArg Except.error (Except.error.inj h))
  | ok b => exact hnext b f h

theorem FailsOnly.mapM {make : β → Except Failure γ} {bs : List β}
    (h : ∀ b ∈ bs, FailsOnly kind (make b)) : FailsOnly kind (bs.mapM make) := by
  induction bs with
  | nil => exact failsOnly_ok []
  | cons b bs ih =>
    obtain ⟨hb, hbs⟩ := List.forall_mem_cons.1 h
    rw [List.mapM_cons]
    exact hb.bind fun c ↦ (ih hbs).bind fun cs ↦ failsOnly_ok (c :: cs)

/-- What cannot fail in any way succeeds. -/
theorem FailsOnly.exists_eq_ok (h : FailsOnly (fun _ ↦ False) x) : ∃ b, x = .ok b := by
  cases x with
  | error f => exact absurd rfl (h f)
  | ok b => exact ⟨b, rfl⟩

end

end SequenceChart
