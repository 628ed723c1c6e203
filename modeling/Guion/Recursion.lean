/-! Well-founded recursion that runs on a heap-allocated stack.

A recursive definition is given by a body: for each call, the `Plan` that asks for the answers of
strictly lower calls and combines them. `run` answers a call. It is one loop over an explicit list
of pending plans, so the depth of the recursion is bounded by memory and not by the native stack,
and `run_eq` unfolds it to the recursive equation that the body reads as.
-/

namespace Guion

/-- A computation that may ask for the answers to other calls, each of them `allowed`. -/
inductive Plan {Call : Type} (Answer : Call → Type) (allowed : Call → Prop) (α : Type) where
  | done (result : α)
  | ask (call : Call) (lower : allowed call) (resume : Answer call → Plan Answer allowed α)

namespace Plan

variable {Call : Type} {Answer : Call → Type} {allowed : Call → Prop} {α β γ : Type}

/-- What the plan yields when `oracle` answers its questions. -/
def result (oracle : (c : Call) → Answer c) : Plan Answer allowed α → α
  | .done a => a
  | .ask c _ resume => (resume (oracle c)).result oracle

@[simp]
theorem result_done (oracle : (c : Call) → Answer c) (a : α)
    : (done a : Plan Answer allowed α).result oracle = a :=
  rfl

@[simp]
theorem result_ask (oracle : (c : Call) → Answer c) (c : Call) (lower : allowed c)
    (resume : Answer c → Plan Answer allowed α)
    : (ask c lower resume).result oracle = (resume (oracle c)).result oracle :=
  rfl

@[simp]
theorem result_ite (oracle : (c : Call) → Answer c) (p : Prop) [Decidable p]
    (yes no : Plan Answer allowed α)
    : (if p then yes else no).result oracle
      = if p then yes.result oracle else no.result oracle := by
  split <;> rfl

/-- Goes on from what a plan yields. -/
def bind (plan : Plan Answer allowed α) (next : α → Plan Answer allowed β)
    : Plan Answer allowed β :=
  match plan with
  | .done a => next a
  | .ask c lower resume => .ask c lower fun answer => (resume answer).bind next

@[simp]
theorem result_bind (oracle : (c : Call) → Answer c) (plan : Plan Answer allowed α)
    (next : α → Plan Answer allowed β)
    : (plan.bind next).result oracle = (next (plan.result oracle)).result oracle := by
  induction plan with
  | done a => rfl
  | ask c lower resume ih => exact ih _

/-- Plans that wait for answers, the innermost first. They turn an `α` into a `β`. -/
inductive Pending (Answer : Call → Type) : Type → Type → Type 1 where
  | none {α : Type} : Pending Answer α α
  | push {allowed : Call → Prop} {α β γ : Type} (resume : α → Plan Answer allowed β)
      (rest : Pending Answer β γ) : Pending Answer α γ

/-- A plan under way, with the plans that wait for it. -/
structure State (Answer : Call → Type) (β : Type) : Type 1 where
  {allowed : Call → Prop}
  {α : Type}
  plan : Plan Answer allowed α
  pending : Pending Answer α β

variable {lower : Call → Call → Prop}

/-- One turn of the loop, read from the later state to the earlier one. -/
inductive Turn (body : (c : Call) → Plan Answer (lower · c) (Answer c))
    : State Answer β → State Answer β → Prop where
  | resume {allowed : Call → Prop} {α γ : Type} (a : α) (resume : α → Plan Answer allowed γ)
      (rest : Pending Answer γ β) {allowed' : Call → Prop}
      : Turn body ⟨resume a, rest⟩ ⟨(done a : Plan Answer allowed' α), .push resume rest⟩
  | enter {allowed : Call → Prop} {α : Type} (c : Call) (h : allowed c)
      (resume : Answer c → Plan Answer allowed α) (rest : Pending Answer α β)
      : Turn body ⟨body c, .push resume rest⟩ ⟨ask c h resume, rest⟩

variable {body : (c : Call) → Plan Answer (lower · c) (Answer c)}

/-- If a stack is finished off from every result, then also from every plan whose calls are. -/
private theorem acc_plan {pending : Pending Answer α β} (plan : Plan Answer allowed α)
    (results : ∀ (allowed : Call → Prop) (a : α),
      Acc (Turn body) ⟨(done a : Plan Answer allowed α), pending⟩)
    (calls : ∀ c, allowed c → ∀ rest : Pending Answer (Answer c) β,
      (∀ (allowed : Call → Prop) (a : Answer c),
        Acc (Turn body) ⟨(done a : Plan Answer allowed (Answer c)), rest⟩)
      → Acc (Turn body) ⟨body c, rest⟩)
    : Acc (Turn body) ⟨plan, pending⟩ := by
  induction plan with
  | done a => exact results _ a
  | ask c h resume ih =>
    refine ⟨_, fun y turn => ?_⟩
    cases turn
    refine calls c h _ fun _ a => ⟨_, fun z turn' => ?_⟩
    cases turn'
    exact ih a

private theorem acc_body (wf : WellFounded lower) (c : Call) (rest : Pending Answer (Answer c) β)
    (results : ∀ (allowed : Call → Prop) (a : Answer c),
      Acc (Turn body) ⟨(done a : Plan Answer allowed (Answer c)), rest⟩)
    : Acc (Turn body) ⟨body c, rest⟩ := by
  induction c using wf.induction with
  | _ c ih => exact acc_plan _ results fun d hd rest' results' => ih d hd rest' results'

private theorem acc_done (wf : WellFounded lower) (pending : Pending Answer α β)
    : ∀ (allowed : Call → Prop) (a : α),
      Acc (Turn body) ⟨(done a : Plan Answer allowed α), pending⟩ := by
  induction pending with
  | none => exact fun _ a => ⟨_, fun y turn => by cases turn⟩
  | push resume rest ih =>
    refine fun _ a => ⟨_, fun y turn => ?_⟩
    cases turn
    exact acc_plan _ ih fun c _ rest results => acc_body wf c rest results

/-- The loop ends from every state: a call only leads to lower calls. -/
theorem turn_wellFounded (wf : WellFounded lower)
    : WellFounded (Turn body : State Answer β → State Answer β → Prop) :=
  ⟨fun ⟨plan, pending⟩ =>
    acc_plan plan (acc_done wf pending) fun c _ rest results => acc_body wf c rest results⟩

/-- Carries a plan through, and hands its result to the plans that wait for it. -/
@[specialize body]
def drive (wf : WellFounded lower) (body : (c : Call) → Plan Answer (lower · c) (Answer c))
    {allowed : Call → Prop} {α : Type} (plan : Plan Answer allowed α)
    (pending : Pending Answer α β) : β :=
  match allowed, α, plan, pending with
  | _, _, .done a, .none => a
  | _, _, .done a, .push resume rest => drive wf body (resume a) rest
  | _, _, .ask c _ resume, rest => drive wf body (body c) (.push resume rest)
termination_by
  (turn_wellFounded wf : WellFounded (Turn body : State Answer β → State Answer β → Prop)).wrap
    ⟨plan, pending⟩
decreasing_by
  · exact Turn.resume ..
  · exact Turn.enter ..

/-- The answer to a call. -/
@[inline]
def run (wf : WellFounded lower) (body : (c : Call) → Plan Answer (lower · c) (Answer c))
    (c : Call) : Answer c :=
  drive wf body (body c) .none

variable {wf : WellFounded lower}

@[simp]
theorem drive_done (a : α)
    : drive wf body (done a : Plan Answer allowed α) .none = a := by
  rw [drive]

theorem drive_push (a : α) {allowed' : Call → Prop} (resume : α → Plan Answer allowed' γ)
    (rest : Pending Answer γ β)
    : drive wf body (done a : Plan Answer allowed α) (.push resume rest)
      = drive wf body (resume a) rest := by
  rw [drive]

theorem drive_ask (c : Call) (h : allowed c) (resume : Answer c → Plan Answer allowed α)
    (rest : Pending Answer α β)
    : drive wf body (ask c h resume) rest
      = drive wf body (body c) (.push resume rest) := by
  rw [drive]

/-- The loop yields a plan's result, if it does so for the calls that the plan may make. -/
private theorem drive_plan (plan : Plan Answer allowed α) (rest : Pending Answer α β)
    (calls : ∀ c, allowed c → ∀ {γ : Type} (rest : Pending Answer (Answer c) γ),
      drive wf body (body c) rest
        = drive wf body (done (run wf body c) : Plan Answer (lower · c) _) rest)
    : drive wf body plan rest
      = drive wf body (done (plan.result (run wf body)) : Plan Answer allowed α) rest := by
  induction plan with
  | done a => rfl
  | ask c h resume ih => rw [drive_ask, calls c h, drive_push, ih, result_ask]

private theorem drive_body (c : Call) {γ : Type} (rest : Pending Answer (Answer c) γ)
    : drive wf body (body c) rest
      = drive wf body (done (run wf body c) : Plan Answer (lower · c) _) rest := by
  induction c using wf.induction generalizing γ with
  | _ c ih =>
    have unfolded : run wf body c = (body c).result (run wf body) := by
      rw [run, drive_plan (body c) .none fun d hd => ih d hd, drive_done]
    rw [unfolded, ← drive_plan (body c) rest fun d hd => ih d hd]

/-- A call is answered as its body says, from the answers to the calls that it asks for. -/
theorem run_eq (wf : WellFounded lower)
    (body : (c : Call) → Plan Answer (lower · c) (Answer c)) (c : Call)
    : run wf body c = (body c).result (run wf body) := by
  rw [run, drive_plan (body c) .none fun d _ => drive_body d, drive_done]

end Plan

end Guion
