import Mathlib.Logic.Basic
import Mathlib.Order.Basic

/-! Programs that call the atomic operations of an interface, the machines that answer these
calls, and a precondition calculus for what a program does on a machine. -/
namespace Programs

universe u v

variable {F : Type → Type} {ε α β γ : Type} {σ : Type v}

/-- A program over the operations `F β` with result `β`. A call goes on with the result or with
the exception that the operation raised. -/
inductive Prog (F : Type → Type) (ε α : Type) : Type 1
  | ret (a : α)
  | raise (e : ε)
  | call {β : Type} (o : F β) (k : Except ε β → Prog F ε α)

namespace Prog

def bind : Prog F ε α → (α → Prog F ε β) → Prog F ε β
  | ret a, f => f a
  | raise e, _ => raise e
  | call o k, f => call o fun r => (k r).bind f

/-- `try p except e: f e`. -/
def handle : Prog F ε α → (ε → Prog F ε α) → Prog F ε α
  | ret a, _ => ret a
  | raise e, f => f e
  | call o k, f => call o fun r => (k r).handle f

/-- The result of `p` as a value, whether it returned or raised. -/
def attempt : Prog F ε α → Prog F ε (Except ε α)
  | ret a => ret (.ok a)
  | raise e => ret (.error e)
  | call o k => call o fun r => (k r).attempt

def ofExcept : Except ε α → Prog F ε α
  | .ok a => ret a
  | .error e => raise e

/-- What the program ended with, once it has nothing left to do. -/
def outcome? : Prog F ε α → Option (Except ε α)
  | ret a => some (.ok a)
  | raise e => some (.error e)
  | call _ _ => none

/-- Whether the program has returned a value that satisfies `f`. -/
def returned (f : α → Bool) : Prog F ε α → Bool
  | ret a => f a
  | _ => false

theorem eq_ret_of_returned {f : α → Bool} {p : Prog F ε α} (h : p.returned f = true) :
    ∃ a, p = ret a ∧ f a = true := by
  cases p with
  | ret a => exact ⟨a, rfl, h⟩
  | raise e => exact absurd h (by simp [returned])
  | call o k => exact absurd h (by simp [returned])

def perform (o : F β) : Prog F ε β := call o ofExcept

instance : Monad (Prog F ε) where
  pure := ret
  bind := bind

@[simp] theorem ret_bind (a : α) (f : α → Prog F ε β) : (ret a : Prog F ε α) >>= f = f a := rfl

@[simp] theorem raise_bind (e : ε) (f : α → Prog F ε β) :
    (raise e : Prog F ε α) >>= f = raise e := rfl

@[simp] theorem call_bind (o : F γ) (k : Except ε γ → Prog F ε α) (f : α → Prog F ε β) :
    call o k >>= f = call o fun r => k r >>= f := rfl

@[simp] theorem pure_eq_ret (a : α) : (pure a : Prog F ε α) = ret a := rfl

theorem bind_ret (p : Prog F ε α) : p >>= ret = p := by
  induction p with
  | ret a => rfl
  | raise e => rfl
  | call o k ih =>
    change call o (fun r => k r >>= ret) = call o k
    exact congrArg (call o) (funext ih)

theorem bind_assoc (p : Prog F ε α) (f : α → Prog F ε β) (g : β → Prog F ε γ) :
    p >>= f >>= g = p >>= fun a => f a >>= g := by
  induction p with
  | ret a => rfl
  | raise e => rfl
  | call o k ih =>
    change call o (fun r => k r >>= f >>= g) = call o (fun r => k r >>= fun a => f a >>= g)
    exact congrArg (call o) (funext ih)

instance : LawfulMonad (Prog F ε) :=
  LawfulMonad.mk' _ (fun p => bind_ret p) (fun _ _ => rfl) bind_assoc

end Prog

/-- A machine relates the state before a call, the operation, its answer and the state after. -/
abbrev Machine (F : Type → Type) (ε : Type) (σ : Type v) : Type (max 1 v) :=
  σ → {β : Type} → F β → Except ε β → σ → Prop

/-- The machine whose only freedom is a choice made for each call. -/
def Machine.of {χ : Type u} (respond : χ → σ → {β : Type} → F β → Except ε β × σ) :
    Machine F ε σ :=
  fun s _ o r s' => ∃ c, respond c s o = (r, s')

structure Call (F : Type → Type) (ε : Type) where
  {Res : Type}
  op : F Res
  answer : Except ε Res

/-- The machine that gives every answer and only keeps a ghost value of the calls made. -/
def Machine.ghost (track : σ → Call F ε → σ) : Machine F ε σ :=
  fun g _ o r g' => g' = track g ⟨o, r⟩

/-- A call that took place, with the states around it. -/
structure Happened (F : Type → Type) (ε : Type) (σ : Type v) extends Call F ε where
  before : σ
  after : σ

/-- `Exec M p s t q s'`: `p` makes the calls `t` on `M` from `s`, reaches `s'` and has `q` left
to do. As `q` is arbitrary, the process may stop between any two calls. -/
inductive Exec (M : Machine F ε σ) :
    Prog F ε α → σ → List (Happened F ε σ) → Prog F ε α → σ → Prop
  | stop (p : Prog F ε α) (s : σ) : Exec M p s [] p s
  | step {β : Type} {o : F β} {k : Except ε β → Prog F ε α} {s s' s'' : σ} {r : Except ε β}
      {t : List (Happened F ε σ)} {q : Prog F ε α} (h : M s o r s')
      (rest : Exec M (k r) s' t q s'') : Exec M (.call o k) s (⟨⟨o, r⟩, s, s'⟩ :: t) q s''

/-- From `s`, every call that `p` makes satisfies `G`, whatever `M` answers, and what it ends
with satisfies `Q`. -/
def Safe (M : Machine F ε σ) (G : σ → {β : Type} → F β → Prop) (Q : Except ε α → σ → Prop) :
    Prog F ε α → σ → Prop
  | .ret a, s => Q (.ok a) s
  | .raise e, s => Q (.error e) s
  | .call o k, s => G s o ∧ ∀ r s', M s o r s' → Safe M G Q (k r) s'

section Rules

variable {M : Machine F ε σ} {G : σ → {β : Type} → F β → Prop} {s s' : σ}

/-- What is left to do after a result: `f` after a value, nothing after an exception. -/
def thenSafe (M : Machine F ε σ) (G : σ → {β : Type} → F β → Prop) (Q : Except ε β → σ → Prop)
    (f : α → Prog F ε β) : Except ε α → σ → Prop
  | .ok a, s => Safe M G Q (f a) s
  | .error e, s => Q (.error e) s

def exceptSafe (M : Machine F ε σ) (G : σ → {β : Type} → F β → Prop) (Q : Except ε α → σ → Prop)
    (f : ε → Prog F ε α) : Except ε α → σ → Prop
  | .ok a, s => Q (.ok a) s
  | .error e, s => Safe M G Q (f e) s

@[simp] theorem thenSafe_ok (Q : Except ε β → σ → Prop) (f : α → Prog F ε β) (a : α) :
    thenSafe M G Q f (.ok a) s = Safe M G Q (f a) s := rfl

@[simp] theorem thenSafe_error (Q : Except ε β → σ → Prop) (f : α → Prog F ε β) (e : ε) :
    thenSafe M G Q f (.error e) s = Q (.error e) s := rfl

@[simp] theorem exceptSafe_ok (Q : Except ε α → σ → Prop) (f : ε → Prog F ε α) (a : α) :
    exceptSafe M G Q f (.ok a) s = Q (.ok a) s := rfl

@[simp] theorem exceptSafe_error (Q : Except ε α → σ → Prop) (f : ε → Prog F ε α) (e : ε) :
    exceptSafe M G Q f (.error e) s = Safe M G Q (f e) s := rfl

@[simp] theorem safe_ret (Q : Except ε α → σ → Prop) (a : α) :
    Safe M G Q (.ret a) s ↔ Q (.ok a) s := Iff.rfl

@[simp] theorem safe_raise (Q : Except ε α → σ → Prop) (e : ε) :
    Safe M G Q (.raise e) s ↔ Q (.error e) s := Iff.rfl

@[simp] theorem safe_call (Q : Except ε α → σ → Prop) (o : F β)
    (k : Except ε β → Prog F ε α) :
    Safe M G Q (.call o k) s ↔ G s o ∧ ∀ r s', M s o r s' → Safe M G Q (k r) s' := Iff.rfl

@[simp] theorem safe_pure (Q : Except ε α → σ → Prop) (a : α) :
    Safe M G Q (pure a) s ↔ Q (.ok a) s := Iff.rfl

@[simp] theorem safe_ofExcept (Q : Except ε α → σ → Prop) (r : Except ε α) :
    Safe M G Q (.ofExcept r) s ↔ Q r s := by
  cases r <;> exact Iff.rfl

@[simp] theorem safe_perform (o : F α) (Q : Except ε α → σ → Prop) :
    Safe M G Q (.perform o) s ↔ G s o ∧ ∀ r s', M s o r s' → Q r s' := by
  simp only [Prog.perform, safe_call, safe_ofExcept]

@[simp] theorem safe_bind (Q : Except ε β → σ → Prop) (p : Prog F ε α) (f : α → Prog F ε β) :
    Safe M G Q (p >>= f) s ↔ Safe M G (thenSafe M G Q f) p s := by
  induction p generalizing s with
  | ret a => rfl
  | raise e => rfl
  | call o k ih =>
    constructor
    · rintro ⟨hg, hk⟩
      exact ⟨hg, fun r s' h => (ih r).mp (hk r s' h)⟩
    · rintro ⟨hg, hk⟩
      exact ⟨hg, fun r s' h => (ih r).mpr (hk r s' h)⟩

@[simp] theorem safe_handle (Q : Except ε α → σ → Prop) (p : Prog F ε α)
    (f : ε → Prog F ε α) :
    Safe M G Q (p.handle f) s ↔ Safe M G (exceptSafe M G Q f) p s := by
  induction p generalizing s with
  | ret a => rfl
  | raise e => rfl
  | call o k ih =>
    constructor
    · rintro ⟨hg, hk⟩
      exact ⟨hg, fun r s' h => (ih r).mp (hk r s' h)⟩
    · rintro ⟨hg, hk⟩
      exact ⟨hg, fun r s' h => (ih r).mpr (hk r s' h)⟩

@[simp] theorem safe_attempt (Q : Except ε (Except ε α) → σ → Prop) (p : Prog F ε α) :
    Safe M G Q p.attempt s ↔ Safe M G (fun r s => Q (.ok r) s) p s := by
  induction p generalizing s with
  | ret a => rfl
  | raise e => rfl
  | call o k ih =>
    constructor
    · rintro ⟨hg, hk⟩
      exact ⟨hg, fun r s' h => (ih r).mp (hk r s' h)⟩
    · rintro ⟨hg, hk⟩
      exact ⟨hg, fun r s' h => (ih r).mpr (hk r s' h)⟩

@[simp] theorem safe_ite (Q : Except ε α → σ → Prop) (c : Prop) [Decidable c]
    (p q : Prog F ε α) :
    Safe M G Q (if c then p else q) s ↔ (c → Safe M G Q p s) ∧ (¬ c → Safe M G Q q s) := by
  by_cases h : c <;> simp [h]

theorem Safe.mono {G' : σ → {β : Type} → F β → Prop} {Q Q' : Except ε α → σ → Prop} {p : Prog F ε α}
    (h : Safe M G Q p s) (hG : ∀ s {β : Type} (o : F β), G s o → G' s o) (hQ : ∀ r s, Q r s → Q' r s) :
    Safe M G' Q' p s := by
  induction p generalizing s with
  | ret a => exact hQ _ _ h
  | raise e => exact hQ _ _ h
  | call o k ih => exact ⟨hG _ _ h.1, fun r s' hm => ih r (h.2 r s' hm)⟩

theorem Safe.post {Q Q' : Except ε α → σ → Prop} {p : Prog F ε α}
    (h : Safe M G Q p s) (hQ : ∀ r s, Q r s → Q' r s) : Safe M G Q' p s :=
  h.mono (fun _ _ _ hg => hg) hQ

theorem Safe.and {G' : σ → {β : Type} → F β → Prop} {Q Q' : Except ε α → σ → Prop} {p : Prog F ε α}
    (h : Safe M G Q p s) (h' : Safe M G' Q' p s) :
    Safe M (fun s {_} o => G s o ∧ G' s o) (fun r s => Q r s ∧ Q' r s) p s := by
  induction p generalizing s with
  | ret a => exact ⟨h, h'⟩
  | raise e => exact ⟨h, h'⟩
  | call o k ih =>
    refine ⟨⟨h.1, h'.1⟩, ?_⟩
    intro r s' hm
    exact ih r (h.2 r s' hm) (h'.2 r s' hm)

/-- A postcondition on normal returns only. -/
def Returns (R : α → σ → Prop) : Except ε α → σ → Prop
  | .ok a, s => R a s
  | .error _, _ => True

@[simp] theorem returns_ok (R : α → σ → Prop) (a : α) :
    Returns (ε := ε) R (.ok a) s = R a s := rfl

@[simp] theorem returns_error (R : α → σ → Prop) (e : ε) : Returns R (.error e) s = True := rfl

theorem Safe.returns {R : σ → Prop} {p : Prog F ε α} (hp : Safe M G (fun _ s => R s) p s) :
    Safe M G (Returns fun _ s => R s) p s := by
  refine hp.post ?_
  rintro (e | a) s' hs
  · trivial
  · exact hs

theorem Safe.both {R R' : α → σ → Prop} {p : Prog F ε α} (hp : Safe M G (Returns R) p s)
    (hp' : Safe M G (Returns R') p s) : Safe M G (Returns fun a s => R a s ∧ R' a s) p s := by
  refine (hp.and hp').mono (fun _ _ _ hg => hg.1) ?_
  rintro (e | a) s' hr
  · trivial
  · exact hr

/-- The rule of sequence for such postconditions. -/
theorem Safe.seq {R : α → σ → Prop} {R' : β → σ → Prop} {p : Prog F ε α} {f : α → Prog F ε β}
    (hp : Safe M G (Returns R) p s) (hf : ∀ a s', R a s' → Safe M G (Returns R') (f a) s') :
    Safe M G (Returns R') (p >>= f) s := by
  rw [safe_bind]
  refine hp.post ?_
  intro r s' hr
  cases r with
  | ok a => exact hf a s' hr
  | error e => trivial

/-- An invariant that the guarded steps keep may be assumed at every call and at the end. -/
theorem Safe.keeping {J : σ → Prop} {G' : σ → {β : Type} → F β → Prop} {Q : Except ε α → σ → Prop}
    {p : Prog F ε α} (h : Safe M G Q p s) (hJ : J s)
    (hstep : ∀ s {β : Type} (o : F β) r s', J s → G s o → M s o r s' → J s')
    (hG : ∀ s {β : Type} (o : F β), J s → G s o → G' s o) :
    Safe M G' (fun r s => Q r s ∧ J s) p s := by
  induction p generalizing s with
  | ret a => exact ⟨h, hJ⟩
  | raise e => exact ⟨h, hJ⟩
  | call o k ih =>
    exact ⟨hG _ _ hJ h.1, fun r s' hm => ih r (h.2 r s' hm) (hstep _ _ _ _ hJ h.1 hm)⟩

/-- A call sequence of a safe program: each call satisfied the guard, and what is left to do is
safe again. -/
theorem Safe.exec {Q : Except ε α → σ → Prop} {p q : Prog F ε α} {t : List (Happened F ε σ)}
    (h : Safe M G Q p s) (he : Exec M p s t q s') :
    (∀ e ∈ t, G e.before e.op) ∧ Safe M G Q q s' := by
  induction he with
  | stop p s => exact ⟨by simp, h⟩
  | step hm _ ih =>
    obtain ⟨hg, hk⟩ := h
    obtain ⟨ht, hq⟩ := ih (hk _ _ hm)
    refine ⟨?_, hq⟩
    intro e he
    rcases List.mem_cons.mp he with rfl | he
    · exact hg
    · exact ht e he

/-- The machine that also keeps what happened. -/
def Machine.recording (M : Machine F ε σ) : Machine F ε (σ × List (Happened F ε σ)) :=
  fun s _ o r s' => M s.1 o r s'.1 ∧ s'.2 = s.2 ++ [⟨⟨o, r⟩, s.1, s'.1⟩]

/-- What is safe with a record of what happened speaks about every call sequence. -/
theorem Safe.recorded {G : σ × List (Happened F ε σ) → {β : Type} → F β → Prop}
    {Q : Except ε α → σ × List (Happened F ε σ) → Prop} {p q : Prog F ε α}
    {t t' : List (Happened F ε σ)} (h : Safe M.recording G Q p (s, t))
    (he : Exec M p s t' q s') : Safe M.recording G Q q (s', t ++ t') := by
  induction he generalizing t with
  | stop p s => simpa only [List.append_nil] using h
  | @step _ o _ s s' _ r _ _ hm _ ih =>
    have hnext := ih (h.2 r (s', t ++ [⟨⟨o, r⟩, s, s'⟩]) ⟨hm, rfl⟩)
    simpa only [List.append_assoc, List.singleton_append] using hnext

/-- What holds at every call and at the end holds wherever the process stops. -/
theorem Safe.everywhere {J : σ → Prop} {p : Prog F ε α}
    (h : Safe M (fun s {_} _ => J s) (fun _ s => J s) p s) : J s := by
  cases p with
  | ret a => exact h
  | raise e => exact h
  | call o k => exact h.1

/-- What every step keeps holds at every call of any program and at its end. -/
theorem Safe.of_stable {J : σ → Prop} (hstep : ∀ s {β : Type} (o : F β) r s', J s → M s o r s' → J s')
    (hJ : J s) (p : Prog F ε α) : Safe M (fun s {_} _ => J s) (fun _ s => J s) p s := by
  induction p generalizing s with
  | ret a => exact hJ
  | raise e => exact hJ
  | call o k ih => exact ⟨hJ, fun r s' hm => ih r (hstep _ _ _ _ hJ hm)⟩

/-- The machine whose calls all satisfy `P`. -/
def Machine.restrict (M : Machine F ε σ) (P : Call F ε → Prop) : Machine F ε σ :=
  fun s _ o r s' => M s o r s' ∧ P ⟨o, r⟩

/-- The machine that gives every answer and remembers nothing. -/
def Machine.any : Machine F ε Unit := fun _ _ _ _ _ => True

/-- Whatever the answers, every call that `p` may make satisfies `P`, and what it returns
satisfies `R`. -/
def Yields (P : {β : Type} → F β → Prop) (R : α → Prop) (p : Prog F ε α) : Prop :=
  Safe .any (fun _ {_} o => P o) (Returns fun a _ => R a) p ()

/-- Every call that `p` may make satisfies `P`, whatever the answers. -/
def Uses (P : {β : Type} → F β → Prop) (p : Prog F ε α) : Prop := Yields P (fun _ => True) p

section Yields

variable {P : {β : Type} → F β → Prop} {R : α → Prop} {R' : β → Prop}

theorem Yields.pure {a : α} (ha : R a) : Yields P R (Pure.pure a : Prog F ε α) := ha

theorem Yields.raise (e : ε) : Yields P R (.raise e : Prog F ε α) := trivial

theorem Yields.bind {p : Prog F ε α} {f : α → Prog F ε β} (hp : Yields P R p)
    (hf : ∀ a, R a → Yields P R' (f a)) : Yields P R' (p >>= f) :=
  Safe.seq hp fun a _ ha => hf a ha

theorem Yields.handle {p : Prog F ε α} {f : ε → Prog F ε α} (hp : Yields P R p)
    (hf : ∀ e, Yields P R (f e)) : Yields P R (p.handle f) := by
  refine (safe_handle _ p f).mpr (Safe.post hp ?_)
  rintro (e | a) _ hr
  · exact hf e
  · exact hr

theorem Yields.ite {c : Prop} [Decidable c] {p q : Prog F ε α} (hp : c → Yields P R p)
    (hq : ¬ c → Yields P R q) : Yields P R (if c then p else q) := by
  split
  · rename_i hc
    exact hp hc
  · rename_i hc
    exact hq hc

theorem Yields.mono {P' : {β : Type} → F β → Prop} {R' : α → Prop} {p : Prog F ε α}
    (hp : Yields P R p) (hP : ∀ {β : Type} (o : F β), P o → P' o) (hR : ∀ a, R a → R' a) :
    Yields P' R' p := by
  refine Safe.mono hp (fun _ _ o ho => hP o ho) ?_
  rintro (e | a) _ hr
  · trivial
  · exact hR a hr

theorem Uses.pure (a : α) : Uses P (Pure.pure a : Prog F ε α) := trivial

theorem Uses.raise (e : ε) : Uses P (.raise e : Prog F ε α) := trivial

theorem Uses.perform {o : F α} (ho : P o) : Uses P (.perform o : Prog F ε α) := by
  unfold Uses Yields
  refine (safe_perform o _).mpr ⟨ho, ?_⟩
  rintro (e | a) _ _ <;> trivial

theorem Uses.bind {p : Prog F ε α} {f : α → Prog F ε β} (hp : Uses P p)
    (hf : ∀ a, Uses P (f a)) : Uses P (p >>= f) :=
  Yields.bind hp fun a _ => hf a

theorem Uses.handle {p : Prog F ε α} {f : ε → Prog F ε α} (hp : Uses P p)
    (hf : ∀ e, Uses P (f e)) : Uses P (p.handle f) :=
  Yields.handle hp hf

theorem Uses.attempt {p : Prog F ε α} (hp : Uses P p) : Uses P p.attempt := by
  refine (safe_attempt _ p).mpr (Safe.post hp ?_)
  exact fun _ _ _ => trivial

theorem Uses.ite {c : Prop} [Decidable c] {p q : Prog F ε α} (hp : Uses P p) (hq : Uses P q) :
    Uses P (if c then p else q) :=
  Yields.ite (fun _ => hp) fun _ => hq

theorem Uses.mono {P' : {β : Type} → F β → Prop} {p : Prog F ε α} (hp : Uses P p)
    (hP : ∀ {β : Type} (o : F β), P o → P' o) : Uses P' p :=
  Yields.mono hp hP fun _ => id

/-- Without a demand on its calls, any program satisfies it. -/
theorem Uses.all (p : Prog F ε α) : Uses (fun _ => True) p := by
  unfold Uses Yields
  refine (Safe.of_stable (J := fun _ => True) (fun _ _ _ _ _ _ _ => trivial) trivial p).post ?_
  rintro (e | a) _ _ <;> trivial

end Yields

/-- As long as a call raises only what `A` says of its operation, the program raises nothing but `E`. -/
def Raises (A : {β : Type} → F β → ε → Prop) (E : ε → Prop) (p : Prog F ε α) : Prop :=
  Safe (Machine.restrict .any fun c => ∀ e, c.answer = .error e → A c.op e) (fun _ {_} _ => True)
    (fun r _ => ∀ e, r = .error e → E e) p ()

section Raises

variable {A : {β : Type} → F β → ε → Prop} {E : ε → Prop}

theorem Raises.pure (a : α) : Raises A E (Pure.pure a : Prog F ε α) := by
  intro e he
  exact absurd he (by simp)

theorem Raises.raise {e : ε} (he : E e) : Raises A E (.raise e : Prog F ε α) := by
  intro e' he'
  obtain rfl := Except.error.inj he'
  exact he

theorem Raises.ofExcept {r : Except ε α} (hr : ∀ e, r = .error e → E e) :
    Raises A E (.ofExcept r : Prog F ε α) := by
  cases r with
  | ok a => exact .pure a
  | error e => exact .raise (hr e rfl)

theorem Raises.perform {o : F α} (ho : ∀ e, A o e → E e) : Raises A E (.perform o : Prog F ε α) := by
  unfold Raises
  refine (safe_perform o _).mpr ⟨trivial, ?_⟩
  rintro r _ ⟨_, hr⟩
  exact fun e he => ho e (hr e he)

theorem Raises.bind {p : Prog F ε α} {f : α → Prog F ε β} (hp : Raises A E p)
    (hf : ∀ a, Raises A E (f a)) : Raises A E (p >>= f) := by
  refine (safe_bind _ p f).mpr (Safe.post hp ?_)
  rintro (e | a) _ hr
  · intro e' he'
    obtain rfl := Except.error.inj he'
    exact hr e rfl
  · exact hf a

/-- What is caught may be anything that the program raises. -/
theorem Raises.handle {E' : ε → Prop} {p : Prog F ε α} {f : ε → Prog F ε α} (hp : Raises A E' p)
    (hf : ∀ e, E' e → Raises A E (f e)) : Raises A E (p.handle f) := by
  refine (safe_handle _ p f).mpr (Safe.post hp ?_)
  rintro (e | a) _ hr
  · exact hf e (hr e rfl)
  · intro e he
    exact absurd he (by simp)

theorem Raises.ite {c : Prop} [Decidable c] {p q : Prog F ε α} (hp : c → Raises A E p)
    (hq : ¬ c → Raises A E q) : Raises A E (if c then p else q) := by
  split
  · rename_i hc
    exact hp hc
  · rename_i hc
    exact hq hc

theorem Raises.any (p : Prog F ε α) : Raises A (fun _ => True) p := by
  unfold Raises
  exact (Safe.of_stable (J := fun _ => True) (fun _ _ _ _ _ _ _ => trivial) trivial p).post
    fun _ _ _ _ _ => trivial

/-- On a machine whose answers raise nothing else. -/
theorem Raises.safe {p : Prog F ε α} (hp : Raises A E p)
    (hM : ∀ s {β : Type} (o : F β) r s', M s o r s' → ∀ e, r = .error e → A o e) :
    Safe M (fun _ {_} _ => True) (fun r _ => ∀ e, r = .error e → E e) p s := by
  induction p generalizing s with
  | ret a => exact hp
  | raise e => exact hp
  | call o k ih => exact ⟨trivial, fun r s' hm => ih r (hp.2 r () ⟨trivial, hM s o r s' hm⟩)⟩

theorem Raises.mono {A' : {β : Type} → F β → ε → Prop} {E' : ε → Prop} {p : Prog F ε α}
    (hp : Raises A E p) (hA : ∀ {β : Type} (o : F β) e, A' o e → A o e) (hE : ∀ e, E e → E' e) :
    Raises A' E' p :=
  (hp.safe fun _ _ o _ _ hm e he => hA o e (hm.2 e he)).post fun _ _ hr e he => hE e (hr e he)

end Raises

/-- What the calls of a program keep holds at each of them and at the end. -/
theorem Yields.keeps {P : {β : Type} → F β → Prop} {R : α → Prop} {J : σ → Prop}
    {p : Prog F ε α} (hp : Yields P R p)
    (hstep : ∀ s {β : Type} (o : F β) r s', J s → P o → M s o r s' → J s') (hJ : J s) :
    Safe M (fun s {_} o => J s ∧ P o) (fun r s => J s ∧ Returns (fun a _ => R a) r s) p s := by
  induction p generalizing s with
  | ret a => exact ⟨hJ, hp⟩
  | raise e => exact ⟨hJ, hp⟩
  | call o k ih =>
    refine ⟨⟨hJ, hp.1⟩, ?_⟩
    intro r s' hm
    exact ih r (hp.2 r () trivial) (hstep _ _ _ _ hJ hp.1 hm)

theorem Uses.keeps {P : {β : Type} → F β → Prop} {J : σ → Prop} {p : Prog F ε α}
    (hp : Uses P p) (hstep : ∀ s {β : Type} (o : F β) r s', J s → P o → M s o r s' → J s')
    (hJ : J s) : Safe M (fun s {_} _ => J s) (fun _ s => J s) p s :=
  (Yields.keeps hp hstep hJ).mono (fun _ _ _ h => h.1) fun _ _ h => h.1

/-- The calls that `p` makes from `s` when the machine's choices are `cs`, what is then left of
it, and the state it has reached. -/
def drive {χ : Type u} (respond : χ → σ → {β : Type} → F β → Except ε β × σ) :
    List χ → Prog F ε α → σ → List (Happened F ε σ) × Prog F ε α × σ
  | c :: cs, .call o k, s =>
    let (r, s') := respond c s o
    let (t, q, s'') := drive respond cs (k r) s'
    (⟨⟨o, r⟩, s, s'⟩ :: t, q, s'')
  | _, p, s => ([], p, s)

theorem drive_exec {χ : Type u} (respond : χ → σ → {β : Type} → F β → Except ε β × σ) (cs : List χ)
    (p : Prog F ε α) (s : σ) :
    Exec (.of respond) p s (drive respond cs p s).1 (drive respond cs p s).2.1
      (drive respond cs p s).2.2 := by
  induction cs generalizing p s with
  | nil => cases p <;> exact .stop _ _
  | cons c cs ih =>
    cases p with
    | ret a => exact .stop _ _
    | raise e => exact .stop _ _
    | call o k => exact .step ⟨c, rfl⟩ (ih _ _)

theorem Safe.restrict {G : σ → {β : Type} → F β → Prop} {Q : Except ε α → σ → Prop} {p : Prog F ε α}
    (h : Safe M G Q p s) (P : Call F ε → Prop) : Safe (M.restrict P) G Q p s := by
  induction p generalizing s with
  | ret a => exact h
  | raise e => exact h
  | call o k ih => exact ⟨h.1, fun r s' hm => ih r (h.2 r s' hm.1)⟩

/-- What holds under every answer that satisfies `P`, along an execution with such answers: the ghost
value is the one that the calls add up to. -/
theorem Safe.ghost_exec {γ : Type u} {track : γ → Call F ε → γ} {P : Call F ε → Prop}
    {G : γ → {β : Type} → F β → Prop} {Q : Except ε α → γ → Prop} {p q : Prog F ε α} {g : γ}
    {t : List (Happened F ε σ)} (h : Safe ((Machine.ghost track).restrict P) G Q p g)
    (he : Exec M p s t q s') (hP : ∀ e ∈ t, P e.toCall) :
    Safe ((Machine.ghost track).restrict P) G Q q (t.foldl (fun g e => track g e.toCall) g) := by
  induction he generalizing g with
  | stop p s => exact h
  | step hm _ ih =>
    obtain ⟨hhead, htail⟩ := List.forall_mem_cons.mp hP
    exact ih (h.2 _ _ ⟨rfl, hhead⟩) htail

/-- Every call is made under its guard, for the ghost value that the calls before it add up to. -/
theorem Safe.ghost_guard {γ : Type u} {track : γ → Call F ε → γ} {G : γ → {β : Type} → F β → Prop}
    {Q : Except ε α → γ → Prop} {p q : Prog F ε α} {g : γ} {t t' : List (Happened F ε σ)} {e : Happened F ε σ}
    (h : Safe (.ghost track) G Q p g) (he : Exec M p s (t ++ e :: t') q s') :
    G (t.foldl (fun g e => track g e.toCall) g) e.op := by
  induction t generalizing p s g with
  | nil =>
    cases he with
    | step hm rest => exact h.1
  | cons c t ih =>
    cases he with
    | step hm rest => exact ih (h.2 _ _ rfl) rest

/-- Every call of an execution was answered by the machine. -/
theorem Exec.answered {p q : Prog F ε α} {t : List (Happened F ε σ)} (h : Exec M p s t q s') :
    ∀ e ∈ t, M e.before e.op e.answer e.after := by
  induction h with
  | stop p s => simp
  | step hm _ ih => exact List.forall_mem_cons.mpr ⟨hm, ih⟩

theorem Exec.restrict {P : Call F ε → Prop} {p q : Prog F ε α} {t : List (Happened F ε σ)}
    (h : Exec M p s t q s') (hP : ∀ e ∈ t, P e.toCall) : Exec (M.restrict P) p s t q s' := by
  induction h with
  | stop p s => exact .stop p s
  | step hm _ ih =>
    refine .step ⟨hm, hP _ List.mem_cons_self⟩ (ih ?_)
    exact fun e he => hP e (List.mem_cons_of_mem _ he)

theorem Exec.trans {p q q' : Prog F ε α} {s'' : σ} {t t' : List (Happened F ε σ)}
    (h : Exec M p s t q s') (h' : Exec M q s' t' q' s'') : Exec M p s (t ++ t') q' s'' := by
  induction h with
  | stop p s => exact h'
  | step hm _ ih => exact .step hm (ih h')

/-- What a program does, it does as the beginning of a longer one. -/
theorem Exec.bind {p q : Prog F ε α} {t : List (Happened F ε σ)} (h : Exec M p s t q s')
    (f : α → Prog F ε β) : Exec M (p >>= f) s t (q >>= f) s' := by
  induction h with
  | stop p s => exact .stop _ s
  | step hm _ ih => exact .step hm ih

/-- An invariant that every step of a machine keeps holds after every call sequence. -/
theorem Exec.invariant {J : σ → Prop} {p q : Prog F ε α} {t : List (Happened F ε σ)}
    (he : Exec M p s t q s') (hJ : J s) (hstep : ∀ s {β : Type} (o : F β) r s', J s → M s o r s' → J s') :
    J s' ∧ ∀ e ∈ t, J e.before ∧ J e.after := by
  induction he with
  | stop p s => exact ⟨hJ, by simp⟩
  | step hm _ ih =>
    have hafter := hstep _ _ _ _ hJ hm
    obtain ⟨hend, ht⟩ := ih hafter
    refine ⟨hend, ?_⟩
    intro e he
    rcases List.mem_cons.mp he with rfl | he
    · exact ⟨hJ, hafter⟩
    · exact ht e he

end Rules

end Programs
