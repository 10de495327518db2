/-
  ProviiSdk.Lib.Clients — programs that call a server.

  A client computes a value by calls: it makes one, looks at the answer
  and goes on from there.  The server is a machine with outputs.  Its
  input is a call together with what its surroundings add to it, which
  the client does not choose; so the executions of a client are a
  relation.

  Main results:
    * `runs_bind_iff` — one client after another.
    * `runs_follow` — on a server that follows another one, a client
      computes what it computes on that one.
    * `outputs_of_runs_each` — a list of clients each of which is a step
      of some machine is a run of the machine.
    * `runs_drive` — executions where the surroundings answer by a rule.
-/

import ProviiSdk.Lib.Simulation

namespace ProviiSdk.Clients

open ProviiSdk.Run ProviiSdk.Simulation

variable {κ ω : Type}

/-! ## §1. Clients -/

/-- A client: it has its value, or makes a call and goes on with the
    answer. -/
inductive Client (κ ω α : Type) where
  | done (a : α)
  | call (k : κ) (next : ω → Client κ ω α)

/-- One client, and then another. -/
def Client.bind {α β : Type} : Client κ ω α → (α → Client κ ω β) → Client κ ω β
  | .done a, f => f a
  | .call k next, f => .call k fun answer => (next answer).bind f

/-- A single call. -/
def Client.ask (k : κ) : Client κ ω ω := .call k .done

/-- A client for each of some arguments, in order. -/
def Client.each {ο β : Type} (f : ο → Client κ ω β) : List ο → Client κ ω (List β)
  | [] => .done []
  | a :: as => (f a).bind fun b => (each f as).bind fun bs => .done (b :: bs)

/-! ## §2. Executions -/

variable {σ ι : Type}

/-- A client runs on a server from `s` to `s'` with the value `a`.  Each
    of its calls reaches the server as an input for that call, and meets
    a condition there. -/
inductive Runs (step : σ → ι → ω × σ) (request : ι → κ) (P : σ → ι → Prop) {α : Type} :
    Client κ ω α → σ → α → σ → Prop
  | done (a : α) (s : σ) : Runs step request P (.done a) s a s
  | call {next : ω → Client κ ω α} {s s' : σ} {a : α} (i : ι) (hi : P s i)
    (h : Runs step request P (next (step s i).1) (step s i).2 a s') :
    Runs step request P (.call (request i) next) s a s'

variable {step : σ → ι → ω × σ} {request : ι → κ} {P : σ → ι → Prop} {α β : Type}

theorem runs_done_iff {a b : α} {s s' : σ} :
    Runs step request P (.done a) s b s' ↔ b = a ∧ s' = s := by
  constructor
  · intro h
    cases h
    exact ⟨rfl, rfl⟩
  · intro h
    rw [h.1, h.2]
    exact .done a s

theorem runs_call_iff {k : κ} {next : ω → Client κ ω α} {s s' : σ} {a : α} :
    Runs step request P (.call k next) s a s' ↔
      ∃ i, request i = k ∧ P s i ∧
        Runs step request P (next (step s i).1) (step s i).2 a s' := by
  constructor
  · intro h
    cases h with
    | call i hi h => exact ⟨i, rfl, hi, h⟩
  · intro h
    obtain ⟨i, rfl, hi, h⟩ := h
    exact .call i hi h

/-- A single call is a step of the server. -/
theorem runs_ask_iff {k : κ} {s s' : σ} {answer : ω} :
    Runs step request P (.ask k) s answer s' ↔
      ∃ i, request i = k ∧ P s i ∧ step s i = (answer, s') := by
  unfold Client.ask
  rw [runs_call_iff]
  refine exists_congr fun i => and_congr_right fun _ => and_congr_right fun _ => ?_
  rw [runs_done_iff]
  constructor
  · intro h
    exact Prod.ext h.1.symm h.2.symm
  · intro h
    rw [h]
    exact ⟨rfl, rfl⟩

/-- **One client after another**: the second starts where the first has
    ended. -/
theorem runs_bind_iff {c : Client κ ω α} {f : α → Client κ ω β} {s s' : σ} {b : β} :
    Runs step request P (c.bind f) s b s' ↔
      ∃ a t, Runs step request P c s a t ∧ Runs step request P (f a) t b s' := by
  induction c generalizing s with
  | done a =>
    constructor
    · intro h
      exact ⟨a, s, .done a s, h⟩
    · intro h
      obtain ⟨a', t, hdone, h⟩ := h
      obtain ⟨rfl, rfl⟩ := runs_done_iff.1 hdone
      exact h
  | call k next ih =>
    show Runs step request P (.call k _) s b s' ↔ _
    rw [runs_call_iff]
    constructor
    · intro h
      obtain ⟨i, rfl, hi, h⟩ := h
      obtain ⟨a, t, hc, h⟩ := (ih _).1 h
      exact ⟨a, t, .call i hi hc, h⟩
    · intro h
      obtain ⟨a, t, hc, h⟩ := h
      obtain ⟨i, hk, hi, hc⟩ := runs_call_iff.1 hc
      exact ⟨i, hk, hi, (ih _).2 ⟨a, t, hc, h⟩⟩

/-! ## §3. Another server -/

variable {τ κ' : Type} {spec : τ → κ' → ω × τ} {request' : κ' → κ} {R : τ → σ → Prop}

/-- **A client does not see the server**: where every step of a server
    that meets the condition is one of another server for the same call,
    with the same answer and into related states, every execution on the
    one is an execution on the other with the same value. -/
theorem runs_follow
    (hstep : ∀ t s i, R t s → P s i →
      ∃ j, request' j = request i ∧ (spec t j).1 = (step s i).1 ∧ R (spec t j).2 (step s i).2)
    {c : Client κ ω α} {s s' : σ} {a : α} (h : Runs step request P c s a s') {t : τ}
    (ht : R t s) :
    ∃ t', Runs spec request' (fun _ _ => True) c t a t' ∧ R t' s' := by
  induction h generalizing t with
  | done a s => exact ⟨t, .done a t, ht⟩
  | @call next s s' a i hi h ih =>
    obtain ⟨j, hj, hanswer, hnext⟩ := hstep t s i ht hi
    obtain ⟨t', hruns, ht'⟩ := ih hnext
    refine ⟨t', ?_, ht'⟩
    rw [← hj]
    refine .call j trivial ?_
    rw [hanswer]
    exact hruns

/-! ## §4. One client for each operation -/

variable {ο μ : Type} {prog : ο → Client κ ω β} {model : μ → κ' → β × μ} {M : ο → κ' → Prop}
  {Q : μ → σ → Prop}

/-- **Operations of a machine**: if every execution of an operation's
    client is a step of a machine, a list of operations executes as a run
    of the machine, with its outputs. -/
theorem outputs_of_runs_each
    (hstep : ∀ m s o b s', Q m s → Runs step request P (prog o) s b s' →
      ∃ k, M o k ∧ (model m k).1 = b ∧ Q (model m k).2 s')
    {os : List ο} {m : μ} {s s' : σ} {bs : List β} (hm : Q m s)
    (h : Runs step request P (Client.each prog os) s bs s') :
    ∃ ks, List.Forall₂ M os ks ∧ outputs model m ks = bs ∧ Q (run (next model) m ks) s' := by
  induction os generalizing m s bs with
  | nil =>
    obtain ⟨rfl, rfl⟩ := runs_done_iff.1 h
    exact ⟨[], List.Forall₂.nil, rfl, hm⟩
  | cons o os ih =>
    obtain ⟨b, t, hfirst, h⟩ := runs_bind_iff.1 h
    obtain ⟨bs', t', hrest, h⟩ := runs_bind_iff.1 h
    obtain ⟨rfl, rfl⟩ := runs_done_iff.1 h
    obtain ⟨k, hk, hanswer, ht⟩ := hstep m s o b t hm hfirst
    obtain ⟨ks, hks, houtputs, hfinal⟩ := ih ht hrest
    refine ⟨k :: ks, List.Forall₂.cons hk hks, ?_, hfinal⟩
    show (model m k).1 :: outputs model (model m k).2 ks = b :: bs'
    rw [hanswer, houtputs]

/-! ## §5. Surroundings that answer by a rule -/

/-- The value of a client, and the state it leaves, where every call
    becomes the input a rule makes of it. -/
def Client.drive (step : σ → ι → ω × σ) (input : κ → ι) : Client κ ω α → σ → α × σ
  | .done a, s => (a, s)
  | .call k next, s =>
    (next (step s (input k)).1).drive step input (step s (input k)).2

/-- Every call of such an execution passes a check. -/
def Client.checked (step : σ → ι → ω × σ) (input : κ → ι) (check : σ → κ → Bool) :
    Client κ ω α → σ → Bool
  | .done _, _ => true
  | .call k next, s =>
    check s k && (next (step s (input k)).1).checked step input check (step s (input k)).2

/-- **A client driven by a rule runs**, if the check stands for the
    condition. -/
theorem runs_drive (input : κ → ι) (hinput : ∀ k, request (input k) = k) (check : σ → κ → Bool)
    (hcheck : ∀ s k, check s k = true → P s (input k)) (c : Client κ ω α) (s : σ)
    (h : c.checked step input check s = true) :
    Runs step request P c s (c.drive step input s).1 (c.drive step input s).2 := by
  induction c generalizing s with
  | done a => exact .done a s
  | call k next ih =>
    unfold Client.checked at h
    rw [Bool.and_eq_true] at h
    obtain ⟨hfirst, hrest⟩ := h
    exact runs_call_iff.2 ⟨input k, hinput k, hcheck s k hfirst, ih _ _ hrest⟩

end ProviiSdk.Clients
