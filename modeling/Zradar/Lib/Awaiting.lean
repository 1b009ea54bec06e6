import Mathlib.Data.List.Basic

/-! Computations that ask their surroundings for answers, and what their exchanges come to. -/

namespace Zradar

variable {Q : Type} {A : Q → Type} {α β : Type}

/-- A computation that asks questions one at a time, and goes on with each answer. -/
inductive Awaiting (Q : Type) (A : Q → Type) (α : Type) where
  | done (result : α)
  | ask (question : Q) (resume : A question → Awaiting Q A α)

/-- A question and what was answered to it. -/
abbrev Exchange (A : Q → Type) := Sigma A

namespace Awaiting

/-- Go on with the result of a computation. -/
def bind : Awaiting Q A α → (α → Awaiting Q A β) → Awaiting Q A β
  | .done result, next => next result
  | .ask question resume, next => .ask question fun answer => (resume answer).bind next

instance : Monad (Awaiting Q A) where
  pure := .done
  bind := .bind

/-- Ask one question for its answer. -/
def await (question : Q) : Awaiting Q A (A question) := .ask question .done

@[simp] theorem done_bind (result : α) (next : α → Awaiting Q A β) :
    (Awaiting.done result >>= next) = next result := rfl

@[simp] theorem ask_bind (question : Q) (resume : A question → Awaiting Q A α)
    (next : α → Awaiting Q A β) :
    (Awaiting.ask question resume >>= next) = .ask question fun answer => resume answer >>= next :=
  rfl

/-- The exchanges that lead a computation from its beginning to what is left of it. -/
inductive Leads : Awaiting Q A α → List (Exchange A) → Awaiting Q A α → Prop where
  | here (program : Awaiting Q A α) : Leads program [] program
  | answered {question : Q} {resume : A question → Awaiting Q A α} (answer : A question)
      {exchanges : List (Exchange A)} {rest : Awaiting Q A α}
      (later : Leads (resume answer) exchanges rest) :
      Leads (.ask question resume) (⟨question, answer⟩ :: exchanges) rest

/-- Every way through a computation ends as the postcondition says. -/
def Meets : Awaiting Q A α → (List (Exchange A) → α → Prop) → Prop
  | .done result, post => post [] result
  | .ask question resume, post =>
    ∀ answer, (resume answer).Meets fun exchanges result =>
      post (⟨question, answer⟩ :: exchanges) result

/-- A computation asks no other questions, whatever it is answered. -/
def Asks (allowed : Q → Prop) : Awaiting Q A α → Prop
  | .done _ => True
  | .ask question resume => allowed question ∧ ∀ answer, (resume answer).Asks allowed

/-- On every way through a computation, whatever has been exchanged so far is as it should be. -/
def Always : Awaiting Q A α → (List (Exchange A) → Prop) → Prop
  | .done _, holds => holds []
  | .ask question resume, holds =>
    holds [] ∧ ∀ answer, (resume answer).Always fun exchanges => holds (⟨question, answer⟩ :: exchanges)

/-- One more answer leads one question further. -/
theorem Leads.snoc {program : Awaiting Q A α} {exchanges : List (Exchange A)} {question : Q}
    {resume : A question → Awaiting Q A α} (leads : program.Leads exchanges (.ask question resume))
    (answer : A question) :
    program.Leads (exchanges ++ [⟨question, answer⟩]) (resume answer) := by
  -- The new exchange is the last one, so the induction is on those in front of it.
  generalize reached : Awaiting.ask question resume = rest at leads
  induction leads with
  | here =>
    subst reached
    exact .answered answer (.here _)
  | answered earlier _ further => exact .answered earlier (further reached)

/-- What ends a computation is what its postcondition says. -/
theorem Leads.meets {program : Awaiting Q A α} {exchanges : List (Exchange A)} {result : α}
    (leads : program.Leads exchanges (.done result)) {post : List (Exchange A) → α → Prop}
    (met : program.Meets post) : post exchanges result := by
  -- Each exchange is the choice of one answer in the postcondition.
  generalize reached : Awaiting.done result = rest at leads
  induction leads generalizing post with
  | here =>
    subst reached
    exact met
  | answered answer _ further => exact further (met answer) reached

/-- The questions on the way are questions that the computation may ask. -/
theorem Leads.asks {program rest : Awaiting Q A α} {exchanges : List (Exchange A)}
    (leads : program.Leads exchanges rest) {allowed : Q → Prop} (asks : program.Asks allowed) :
    ∀ exchange ∈ exchanges, allowed exchange.1 := by
  induction leads with
  | here => simp
  | answered answer _ further =>
    intro exchange member
    obtain rfl | later := List.mem_cons.mp member
    · exact asks.1
    · exact further (asks.2 answer) exchange later

/-- What always holds of the exchanges holds of those on the way. -/
theorem Leads.always {program rest : Awaiting Q A α} {exchanges : List (Exchange A)}
    (leads : program.Leads exchanges rest) {holds : List (Exchange A) → Prop}
    (always : program.Always holds) : holds exchanges := by
  induction leads generalizing holds with
  | here program =>
    cases program with
    | done _ => exact always
    | ask _ _ => exact always.1
  | answered answer _ further => exact further (always.2 answer)

/-- A weaker postcondition is met as well. -/
theorem Meets.mono {program : Awaiting Q A α} {post weaker : List (Exchange A) → α → Prop}
    (met : program.Meets post) (weakens : ∀ exchanges result, post exchanges result →
      weaker exchanges result) : program.Meets weaker := by
  induction program generalizing post weaker with
  | done result => exact weakens [] result met
  | ask question resume further =>
    exact fun answer => further answer (met answer) fun exchanges result => weakens _ _

/-- What holds however a computation ends is met by it. -/
theorem meets_of_forall (program : Awaiting Q A α) {post : List (Exchange A) → α → Prop}
    (always : ∀ exchanges result, post exchanges result) : program.Meets post := by
  induction program generalizing post with
  | done result => exact always [] result
  | ask question resume further => exact fun answer => further answer fun _ _ => always _ _

/-- A postcondition in two parts is met where both parts are. -/
theorem Meets.and {program : Awaiting Q A α} {first second : List (Exchange A) → α → Prop}
    (one : program.Meets first) (other : program.Meets second) :
    program.Meets fun exchanges result => first exchanges result ∧ second exchanges result := by
  induction program generalizing first second with
  | done result => exact ⟨one, other⟩
  | ask question resume further => exact fun answer => further answer (one answer) (other answer)

/-- What always holds of the exchanges holds of them at the end. -/
theorem Always.meets {program : Awaiting Q A α} {holds : List (Exchange A) → Prop}
    (always : program.Always holds) : program.Meets fun exchanges _ => holds exchanges := by
  induction program generalizing holds with
  | done result => exact always
  | ask question resume further => exact fun answer => further answer (always.2 answer)

/-- What goes on from a result is met behind the exchanges that led to it. -/
theorem Meets.bind {program : Awaiting Q A α} {next : α → Awaiting Q A β}
    {middle : List (Exchange A) → α → Prop} {post : List (Exchange A) → β → Prop}
    (first : program.Meets middle)
    (second : ∀ before value, middle before value →
      (next value).Meets fun behind result => post (before ++ behind) result) :
    (program >>= next).Meets post := by
  -- An answer moves one exchange from the first part in front of everything.
  induction program generalizing middle post with
  | done result => exact second [] result first
  | ask question resume further =>
    exact fun answer => further answer (first answer) fun before value met => second _ value met

theorem Asks.bind {allowed : Q → Prop} {program : Awaiting Q A α} {next : α → Awaiting Q A β}
    (first : program.Asks allowed) (second : ∀ value, (next value).Asks allowed) :
    (program >>= next).Asks allowed := by
  induction program with
  | done result => exact second result
  | ask question resume further => exact ⟨first.1, fun answer => further answer (first.2 answer)⟩

/-- What holds on the way through both parts holds on the way through the whole. -/
theorem Always.bind {program : Awaiting Q A α} {next : α → Awaiting Q A β}
    {middle : List (Exchange A) → α → Prop} {holds : List (Exchange A) → Prop}
    (first : program.Always holds) (met : program.Meets middle)
    (second : ∀ before value, middle before value →
      (next value).Always fun behind => holds (before ++ behind)) :
    (program >>= next).Always holds := by
  induction program generalizing middle holds with
  | done result => exact second [] result met
  | ask question resume further =>
    exact ⟨first.1, fun answer => further answer (first.2 answer) (met answer)
      fun before value reached => second _ value reached⟩

/-- Handing a result on takes no exchange. -/
theorem Always.done {program : Awaiting Q A α} {holds : List (Exchange A) → Prop}
    (always : program.Always holds) (next : α → β) :
    (program >>= fun result => .done (next result)).Always holds := by
  refine always.bind always.meets fun before value reached => ?_
  rw [← List.append_nil before] at reached
  exact reached

theorem asks_await {allowed : Q → Prop} {question : Q} (may : allowed question) :
    (await question : Awaiting Q A (A question)).Asks allowed := ⟨may, fun _ => trivial⟩

end Awaiting

end Zradar
