import CommerceAgent.Programs

/-! Requests that are served one after another: each starts a program that is chosen for the
state it finds, and may stop anywhere. -/
namespace Programs

universe u v

variable {F : Type → Type} {ε α κ : Type} {σ : Type v} {M : Machine F ε σ}
  {serve : κ → σ → Prog F ε α} {s₀ s : σ}

/-- A served request, with the state that it found and the calls that were made for it. -/
structure Turn (κ : Type) (F : Type → Type) (ε : Type) (σ : Type v) where
  request : κ
  before : σ
  calls : List (Happened F ε σ)

inductive Session (M : Machine F ε σ) (serve : κ → σ → Prog F ε α) (s₀ : σ) :
    List (Turn κ F ε σ) → σ → Prop
  | start : Session M serve s₀ [] s₀
  | turn {turns : List (Turn κ F ε σ)} {s s' : σ} {k : κ} {t : List (Happened F ε σ)}
      {q : Prog F ε α} (session : Session M serve s₀ turns s) (he : Exec M (serve k s) s t q s') :
      Session M serve s₀ (turns ++ [⟨k, s, t⟩]) s'

theorem Session.restrict {P : Call F ε → Prop} {turns : List (Turn κ F ε σ)}
    (session : Session M serve s₀ turns s)
    (hP : ∀ turn ∈ turns, ∀ e ∈ turn.calls, P e.toCall) :
    Session (M.restrict P) serve s₀ turns s := by
  induction session with
  | start => exact .start
  | turn session he ih =>
    have hpast := ih fun turn hturn => hP turn (List.mem_append_left _ hturn)
    have hlast := hP _ (List.mem_append_right _ (List.mem_singleton_self _))
    exact .turn hpast (he.restrict hlast)

/-- A session goes on with requests that make no call. -/
theorem Session.idle {turns : List (Turn κ F ε σ)} (session : Session M serve s₀ turns s)
    (requests : List κ) :
    Session M serve s₀ (turns ++ requests.map fun request => ⟨request, s, []⟩) s := by
  induction requests generalizing turns with
  | nil => simpa using session
  | cons request requests ih =>
    have hnext := session.turn (.stop (serve request s) s)
    have hrest := ih hnext
    rwa [List.append_assoc] at hrest

/-- What every turn keeps, wherever it stops, holds in every state of a session; and every call of
a turn satisfies what that turn promises. -/
theorem Session.invariant {J : σ → Prop} {P : κ → σ → Prop}
    {G : κ → σ → σ → {β : Type} → F β → Prop}
    (hserve : ∀ k s, J s → P k s →
      Safe M (fun s' {_} o => J s' ∧ G k s s' o) (fun _ s' => J s') (serve k s) s)
    {turns : List (Turn κ F ε σ)} (session : Session M serve s₀ turns s) (h0 : J s₀)
    (hP : ∀ turn ∈ turns, P turn.request turn.before) :
    J s ∧ ∀ turn ∈ turns, ∀ e ∈ turn.calls, G turn.request turn.before e.before e.op := by
  induction session with
  | start => exact ⟨h0, by simp⟩
  | @turn turns s s' k t q _ he ih =>
    have hpast : ∀ turn ∈ turns, P turn.request turn.before :=
      fun turn hturn => hP turn (List.mem_append_left _ hturn)
    have hlast : P k s := hP ⟨k, s, t⟩ (List.mem_append_right _ (List.mem_singleton_self _))
    obtain ⟨hJ, hturns⟩ := ih hpast
    obtain ⟨hcalls, hrest⟩ := (hserve k s hJ hlast).exec he
    refine ⟨(hrest.mono (fun _ _ _ h => h.1) fun _ _ h => h).everywhere, ?_⟩
    intro turn hturn
    rcases List.mem_append.mp hturn with hturn | hturn
    · exact hturns turn hturn
    · obtain rfl := List.mem_singleton.mp hturn
      exact fun e he => (hcalls e he).2

end Programs
