import JobControl.Sys.Call

/-!
# Runs of programs that make system calls

A program of `Sys` is a tree of calls; a run follows one branch of it, each call answered by the
system. `Sys.Yields x tr a` says that answering the calls of `x` with the replies the trace `tr`
records, each call beside its reply, ends with the result `a`. The system is not fixed: a
statement about every trace of a program holds whatever the system answers, and a responder that
answers each call by a function gives one such trace (`yields_runWith`, the run `Sys.run` makes).

* `yields_bind_iff`: a run of `x >>= f` is a run of `x`, then a run of the program its result
  chooses; `yields_ask_bind_iff` for a first call;
* `Sys.Calls S x`: every call that `x` can make, on every branch, satisfies `S`, so every run of
  `x` records only such calls (`Calls.mem_trace`).
-/

namespace JobControl

namespace Sys

/-- One call with the system's reply to it. -/
abbrev Exchange := (c : Call) × c.Reply

/-- The calls of a run, in the order made, with their replies. -/
abbrev Trace := List Exchange

/-- Answering the calls of a program with the replies of a trace ends with a result. -/
inductive Yields {α : Type} : Sys α → Trace → α → Prop
  | done (a : α) : Yields (.done a) [] a
  | call {c : Call} {k : c.Reply → Sys α} (r : c.Reply) {tr : Trace} {a : α} :
      Yields (k r) tr a → Yields (.call c k) (⟨c, r⟩ :: tr) a

variable {α β : Type}

@[simp] theorem yields_done_iff {a b : α} {tr : Trace} :
    Yields (.done a) tr b ↔ tr = [] ∧ b = a := by
  constructor
  · rintro ⟨⟩
    exact ⟨rfl, rfl⟩
  · rintro ⟨rfl, rfl⟩
    exact .done _

@[simp] theorem yields_call_iff {c : Call} {k : c.Reply → Sys α} {tr : Trace} {a : α} :
    Yields (.call c k) tr a ↔ ∃ r tr', tr = ⟨c, r⟩ :: tr' ∧ Yields (k r) tr' a := by
  constructor
  · intro h
    cases h with
    | call r h => exact ⟨r, _, rfl, h⟩
  · rintro ⟨r, tr', rfl, h⟩
    exact .call r h

theorem yields_pure_iff {a b : α} {tr : Trace} :
    Yields (pure a : Sys α) tr b ↔ tr = [] ∧ b = a :=
  yields_done_iff

theorem yields_pure_pair_iff {a c : α} {b d : β} {tr : Trace} :
    Yields (pure (a, b) : Sys (α × β)) tr (c, d) ↔ tr = [] ∧ c = a ∧ d = b := by
  rw [yields_pure_iff, Prod.mk.injEq]

theorem Yields.bind {x : Sys α} {f : α → Sys β} {tr₁ tr₂ : Trace} {a : α} {b : β}
    (hx : Yields x tr₁ a) (hf : Yields (f a) tr₂ b) : Yields (x >>= f) (tr₁ ++ tr₂) b := by
  induction hx with
  | done a => exact hf
  | call r _ ih => exact .call r (ih hf)

theorem yields_bind_iff {x : Sys α} {f : α → Sys β} {tr : Trace} {b : β} :
    Yields (x >>= f) tr b ↔
      ∃ tr₁ a tr₂, tr = tr₁ ++ tr₂ ∧ Yields x tr₁ a ∧ Yields (f a) tr₂ b := by
  constructor
  · intro h
    -- the first calls of the run are those of `x`, down to the leaf that hands over to `f`
    induction x generalizing tr with
    | done a => exact ⟨[], a, tr, rfl, .done a, h⟩
    | call c k ih =>
      obtain ⟨r, tr', rfl, hr⟩ := yields_call_iff.mp h
      obtain ⟨tr₁, a, tr₂, rfl, hx, hf⟩ := ih r hr
      exact ⟨⟨c, r⟩ :: tr₁, a, tr₂, rfl, .call r hx, hf⟩
  · rintro ⟨tr₁, a, tr₂, rfl, hx, hf⟩
    exact hx.bind hf

theorem yields_ask_bind_iff {c : Call} {f : c.Reply → Sys β} {tr : Trace} {b : β} :
    Yields (ask c >>= f) tr b ↔ ∃ r tr', tr = ⟨c, r⟩ :: tr' ∧ Yields (f r) tr' b :=
  yields_call_iff

/-- The run in which every call is answered by `answer`. -/
def runWith (answer : (c : Call) → c.Reply) : Sys α → Trace × α
  | .done a => ([], a)
  | .call c k =>
    let rest := runWith answer (k (answer c))
    (⟨c, answer c⟩ :: rest.1, rest.2)

/-- Answering by a function is a run, and it ends where `Sys.run` does. -/
theorem yields_runWith (answer : (c : Call) → c.Reply) (x : Sys α) :
    Yields x (x.runWith answer).1 (x.runWith answer).2 ∧
      (x.runWith answer).2 = (@Sys.run Id _ answer α x).run := by
  induction x with
  | done a => exact ⟨.done a, rfl⟩
  | call c k ih =>
    obtain ⟨hrun, heq⟩ := ih (answer c)
    exact ⟨.call (answer c) hrun, heq⟩

/-- Every call that a program can make satisfies `S`. -/
inductive Calls (S : Call → Prop) : Sys α → Prop
  | done (a : α) : Calls S (.done a)
  | call {c : Call} {k : c.Reply → Sys α} :
      S c → (∀ r, Calls S (k r)) → Calls S (.call c k)

variable {S : Call → Prop}

theorem Calls.pure (a : α) : Calls S (pure a) :=
  .done a

theorem Calls.ask {c : Call} (hc : S c) : Calls S (ask c) :=
  .call hc fun r => .done r

theorem Calls.bind {x : Sys α} {f : α → Sys β} (hx : Calls S x) (hf : ∀ a, Calls S (f a)) :
    Calls S (x >>= f) := by
  induction hx with
  | done a => exact hf a
  | call hc _ ih => exact .call hc ih

theorem Calls.mono {T : Call → Prop} (hST : ∀ c, S c → T c) {x : Sys α} (hx : Calls S x) :
    Calls T x := by
  induction hx with
  | done a => exact .done a
  | call hc _ ih => exact .call (hST _ hc) ih

theorem Calls.mem_trace {x : Sys α} {tr : Trace} {a : α} (hx : Calls S x) (h : Yields x tr a) :
    ∀ e ∈ tr, S e.1 := by
  induction h with
  | done => simp
  | call r _ ih =>
    cases hx with
    | call hc hk =>
      intro e he
      rcases List.mem_cons.mp he with rfl | he
      · exact hc
      · exact ih (hk r) e he

end Sys

end JobControl
