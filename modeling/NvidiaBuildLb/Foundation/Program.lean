namespace NvidiaBuildLb.Foundation

/-! Programs that ask their environment, one request after the other, and may
be dropped while they wait for an answer.  What holds of all their runs is
proved by rules on the program text. -/

inductive Program (Op : Type) (Answer : Op → Type) (α : Type) where
  | done (value : α)
  | ask (op : Op) (next : Answer op → Program Op Answer α)

def Program.bind {Op : Type} {Answer : Op → Type} {α β : Type}
    (program : Program Op Answer α) (next : α → Program Op Answer β) :
    Program Op Answer β :=
  match program with
  | .done value => next value
  | .ask op rest => .ask op fun answer => (rest answer).bind next

theorem Program.bind_done {Op : Type} {Answer : Op → Type} {α : Type}
    (program : Program Op Answer α) : program.bind .done = program := by
  induction program with
  | done value => rfl
  | ask op next induction =>
      exact congrArg (Program.ask op) (funext induction)

theorem Program.bind_assoc {Op : Type} {Answer : Op → Type} {α β γ : Type}
    (program : Program Op Answer α) (second : α → Program Op Answer β)
    (third : β → Program Op Answer γ) :
    (program.bind second).bind third =
      program.bind fun value => (second value).bind third := by
  induction program with
  | done value => rfl
  | ask op next induction =>
      exact congrArg (Program.ask op) (funext induction)

/-- How a world answers, and what it becomes; and what it becomes when the
program is dropped while it waits. -/
structure Environment (Op : Type) (Answer : Op → Type) (ω : Type) where
  answers : ∀ op, ω → Answer op → ω → Prop
  drops : Op → ω → ω → Prop

inductive Ending (Op : Type) (α : Type) where
  | waiting (op : Op)
  | returned (value : α)
  | dropped (op : Op)

/-- How far a program may get in a world, and the world it leaves. -/
inductive Reaches {Op : Type} {Answer : Op → Type} {ω α : Type}
    (environment : Environment Op Answer ω) :
    ω → Program Op Answer α → ω → Ending Op α → Prop where
  | waiting {world : ω} {op : Op} {next : Answer op → Program Op Answer α} :
      Reaches environment world (.ask op next) world (.waiting op)
  | returned {world : ω} {value : α} :
      Reaches environment world (.done value) world (.returned value)
  | dropped {world after : ω} {op : Op}
      {next : Answer op → Program Op Answer α}
      (drops : environment.drops op world after) :
      Reaches environment world (.ask op next) after (.dropped op)
  | answered {world between after : ω} {op : Op}
      {next : Answer op → Program Op Answer α} {ending : Ending Op α}
      (answer : Answer op) (answers : environment.answers op world answer between)
      (rest : Reaches environment between (next answer) after ending) :
      Reaches environment world (.ask op next) after ending

def Environment.within {Op : Type} {Answer : Op → Type} {ω : Type}
    (environment : Environment Op Answer ω) (condition : Op → ω → Prop) :
    Environment Op Answer ω where
  answers := fun op world answer after =>
    condition op world ∧ environment.answers op world answer after
  drops := fun op world after =>
    condition op world ∧ environment.drops op world after

/-- What is promised of the world whenever a program waits, and wherever it is
dropped. -/
structure Contract (Op : Type) (Answer : Op → Type) (ω : Type) where
  environment : Environment Op Answer ω
  waiting : Op → ω → Prop
  dropped : Op → ω → Prop

section Contracts

variable {Op : Type} {Answer : Op → Type} {ω α β : Type}
  (contract : Contract Op Answer ω)

/-- The weakest precondition under a contract. -/
def Program.wp (post : α → ω → Prop) : Program Op Answer α → ω → Prop
  | .done value, world => post value world
  | .ask op next, world =>
      contract.waiting op world ∧
      (∀ after, contract.environment.drops op world after →
        contract.dropped op after) ∧
      ∀ answer after, contract.environment.answers op world answer after →
        (next answer).wp post after

def Contract.Allows (post : α → ω → Prop) (world : ω) :
    Ending Op α → Prop
  | .waiting op => contract.waiting op world
  | .returned value => post value world
  | .dropped op => contract.dropped op world

variable {contract} {post post' : α → ω → Prop}

theorem Program.wp_mono (weaker : ∀ value world, post value world →
      post' value world)
    {program : Program Op Answer α} {world : ω}
    (holds : program.wp contract post world) :
    program.wp contract post' world := by
  induction program generalizing world with
  | done value => exact weaker value world holds
  | ask op next induction =>
      exact ⟨holds.1, holds.2.1, fun answer after answers =>
        induction answer (holds.2.2 answer after answers)⟩

theorem Program.wp_bind {post : β → ω → Prop}
    {program : Program Op Answer α} {next : α → Program Op Answer β}
    {world : ω} :
    (program.bind next).wp contract post world ↔
      program.wp contract (fun value => (next value).wp contract post)
        world := by
  induction program generalizing world with
  | done value => exact Iff.rfl
  | ask op rest induction =>
      simp only [Program.bind, Program.wp]
      constructor
      · intro holds
        exact ⟨holds.1, holds.2.1, fun answer after answers =>
          (induction answer).mp (holds.2.2 answer after answers)⟩
      · intro holds
        exact ⟨holds.1, holds.2.1, fun answer after answers =>
          (induction answer).mpr (holds.2.2 answer after answers)⟩

structure Contract.Relaxes (weaker stronger : Contract Op Answer ω) : Prop where
  answers : ∀ op world answer after,
    weaker.environment.answers op world answer after →
      stronger.environment.answers op world answer after
  drops : ∀ op world after, weaker.environment.drops op world after →
    stronger.environment.drops op world after
  waiting : ∀ op world, stronger.waiting op world → weaker.waiting op world
  dropped : ∀ op world, stronger.dropped op world → weaker.dropped op world

theorem Program.wp_relax {weaker : Contract Op Answer ω}
    (relaxes : weaker.Relaxes contract) {program : Program Op Answer α}
    {world : ω} (holds : program.wp contract post world) :
    program.wp weaker post world := by
  induction program generalizing world with
  | done value => exact holds
  | ask op next induction =>
      refine ⟨relaxes.waiting op world holds.1, ?_, ?_⟩
      · intro after drops
        exact relaxes.dropped op after
          (holds.2.1 after (relaxes.drops op world after drops))
      · intro answer after answers
        exact induction answer
          (holds.2.2 answer after (relaxes.answers op world answer after answers))

/-- A program with its precondition keeps the contract however it runs. -/
theorem Program.wp_sound {program : Program Op Answer α} {world after : ω}
    {ending : Ending Op α} (holds : program.wp contract post world)
    (reaches : Reaches contract.environment world program after ending) :
    contract.Allows post after ending := by
  induction reaches with
  | waiting => exact holds.1
  | returned => exact holds
  | dropped drops => exact holds.2.1 _ drops
  | answered answer answers rest induction =>
      exact induction (holds.2.2 answer _ answers)

/-- What a contract promises of requests may be assumed of them, also where the
environment does less. -/
theorem Program.reaches_within {environment : Environment Op Answer ω}
    {condition : Op → ω → Prop} {program : Program Op Answer α}
    {world after : ω} {ending : Ending Op α}
    (answers : ∀ op world answer after,
      environment.answers op world answer after →
        contract.environment.answers op world answer after)
    (promised : ∀ op world, contract.waiting op world → condition op world)
    (holds : program.wp contract post world)
    (reaches : Reaches environment world program after ending) :
    Reaches (environment.within condition) world program after ending := by
  induction reaches with
  | waiting => exact .waiting
  | returned => exact .returned
  | dropped drops => exact .dropped ⟨promised _ _ holds.1, drops⟩
  | answered answer answered rest induction =>
      exact .answered answer ⟨promised _ _ holds.1, answered⟩
        (induction (holds.2.2 answer _ (answers _ _ _ _ answered)))

end Contracts

def Environment.Total {Op : Type} {Answer : Op → Type} {ω : Type}
    (environment : Environment Op Answer ω) : Prop :=
  ∀ op world, ∃ answer after, environment.answers op world answer after

theorem Program.returns {Op : Type} {Answer : Op → Type} {ω α : Type}
    {environment : Environment Op Answer ω} (total : environment.Total)
    (program : Program Op Answer α) (world : ω) :
    ∃ value after, Reaches environment world program after (.returned value) := by
  induction program generalizing world with
  | done value => exact ⟨value, world, .returned⟩
  | ask op next induction =>
      obtain ⟨answer, between, answers⟩ := total op world
      obtain ⟨value, after, rest⟩ := induction answer between
      exact ⟨value, after, .answered answer answers rest⟩

/-- A run in a world that serves by a function, as far as it does. -/
def Program.perform {Op : Type} {Answer : Op → Type} {ω α : Type}
    (serve : ∀ op, ω → Option (Answer op × ω)) :
    Nat → Program Op Answer α → ω → ω × Ending Op α
  | _, .done value, world => (world, .returned value)
  | 0, .ask op _, world => (world, .waiting op)
  | count + 1, .ask op next, world =>
      match serve op world with
      | none => (world, .waiting op)
      | some (answer, after) => (next answer).perform serve count after

theorem Program.perform_reaches {Op : Type} {Answer : Op → Type} {ω α : Type}
    {environment : Environment Op Answer ω}
    {serve : ∀ op, ω → Option (Answer op × ω)}
    (serves : ∀ op world answer after, serve op world = some (answer, after) →
      environment.answers op world answer after)
    (count : Nat) (program : Program Op Answer α) (world : ω) :
    Reaches environment world program (program.perform serve count world).1
      (program.perform serve count world).2 := by
  induction count generalizing program world with
  | zero =>
      cases program with
      | done value => exact .returned
      | ask op next => exact .waiting
  | succ count induction =>
      cases program with
      | done value => exact .returned
      | ask op next =>
          unfold perform
          split
          case h_1 => exact .waiting
          case h_2 answer after served =>
              exact .answered answer (serves op world answer after served)
                (induction (next answer) after)

/-! Routines: programs that own something while they wait, which is dropped
with them, and that may leave early with a result of another kind. -/

def Routine (ς ε Op : Type) (Answer : Op → Type) (α : Type) : Type :=
  ς → Program (ς × Op) (fun request => Answer request.2) (Except ε α × ς)

namespace Routine

variable {ς ε Op : Type} {Answer : Op → Type} {α β ω : Type}

def pure (value : α) : Routine ς ε Op Answer α :=
  fun owned => .done (.ok value, owned)

def leave (exit : ε) : Routine ς ε Op Answer α :=
  fun owned => .done (.error exit, owned)

def owned : Routine ς ε Op Answer ς :=
  fun owned => .done (.ok owned, owned)

def update (change : ς → ς) : Routine ς ε Op Answer Unit :=
  fun owned => .done (.ok (), change owned)

def ask (op : Op) : Routine ς ε Op Answer (Answer op) :=
  fun owned => .ask (owned, op) fun answer => .done (.ok answer, owned)

def bind (routine : Routine ς ε Op Answer α)
    (next : α → Routine ς ε Op Answer β) : Routine ς ε Op Answer β :=
  fun owned => (routine owned).bind fun
    | (.ok value, owned) => next value owned
    | (.error exit, owned) => .done (.error exit, owned)

instance : Monad (Routine ς ε Op Answer) where
  pure := pure
  bind := bind

private theorem id_map (routine : Routine ς ε Op Answer α) :
    id <$> routine = routine := by
  funext owned
  refine Eq.trans ?_ (routine owned).bind_done
  refine congrArg (routine owned).bind (funext fun result => ?_)
  obtain ⟨result, owned⟩ := result
  cases result <;> rfl

private theorem bind_assoc {γ : Type} (routine : Routine ς ε Op Answer α)
    (second : α → Routine ς ε Op Answer β)
    (third : β → Routine ς ε Op Answer γ) :
    routine >>= second >>= third =
      routine >>= fun value => second value >>= third := by
  funext owned
  refine Eq.trans ((routine owned).bind_assoc _ _) ?_
  refine congrArg (routine owned).bind (funext fun result => ?_)
  obtain ⟨result, owned⟩ := result
  cases result <;> rfl

instance : LawfulMonad (Routine ς ε Op Answer) :=
  LawfulMonad.mk' _ id_map (fun _ _ => rfl) bind_assoc

/-- `?` on a result that carries the early return. -/
def lift : Except ε α → Routine ς ε Op Answer α
  | .ok value => pure value
  | .error exit => leave exit

/-- A result that is looked at where it is returned. -/
def attempt {ε' : Type} (routine : Routine ς ε Op Answer α) :
    Routine ς ε' Op Answer (Except ε α) :=
  fun owned => (routine owned).bind fun result =>
    .done (.ok result.1, result.2)

/-- A `for` loop without locals. -/
def each (items : List β) (body : β → Routine ς ε Op Answer Unit) :
    Routine ς ε Op Answer Unit :=
  match items with
  | [] => pure ()
  | item :: rest => bind (body item) fun _ => each rest body

/-- `continue` and `break`, with the loop's locals. -/
inductive Flow (β : Type) where
  | again (locals : β)
  | stop (locals : β)

def loop (body : β → Routine ς ε Op Answer (Flow β)) :
    Nat → β → Routine ς ε Op Answer β
  | 0, locals => pure locals
  | rounds + 1, locals =>
      bind (body locals) fun
        | .again locals => loop body rounds locals
        | .stop locals => pure locals

variable (contract : Contract (ς × Op) (fun request => Answer request.2) ω)
  (exits : ε → ς → ω → Prop)

def wp (post : α → ς → ω → Prop) (routine : Routine ς ε Op Answer α)
    (owned : ς) (world : ω) : Prop :=
  (routine owned).wp contract
    (fun result world =>
      match result with
      | (.ok value, owned) => post value owned world
      | (.error exit, owned) => exits exit owned world)
    world

variable {contract} {exits} {post post' : α → ς → ω → Prop} {held : ς}
  {world : ω}

@[simp] theorem wp_pure (value : α) :
    (Pure.pure value : Routine ς ε Op Answer α).wp contract exits post held
      world ↔ post value held world :=
  Iff.rfl

@[simp] theorem wp_leave (exit : ε) :
    (leave exit : Routine ς ε Op Answer α).wp contract exits post held world ↔
      exits exit held world :=
  Iff.rfl

@[simp] theorem wp_owned {post : ς → ς → ω → Prop} :
    (owned : Routine ς ε Op Answer ς).wp contract exits post held world ↔
      post held held world :=
  Iff.rfl

@[simp] theorem wp_update {post : Unit → ς → ω → Prop} (change : ς → ς) :
    (update change : Routine ς ε Op Answer Unit).wp contract exits post held
      world ↔ post () (change held) world :=
  Iff.rfl

@[simp] theorem wp_ask {op : Op} {post : Answer op → ς → ω → Prop} :
    (ask op : Routine ς ε Op Answer (Answer op)).wp contract exits post held
      world ↔
      contract.waiting (held, op) world ∧
      (∀ after, contract.environment.drops (held, op) world after →
        contract.dropped (held, op) after) ∧
      ∀ answer after,
        contract.environment.answers (held, op) world answer after →
          post answer held after :=
  Iff.rfl

@[simp] theorem wp_bind {post : β → ς → ω → Prop}
    {routine : Routine ς ε Op Answer α}
    {next : α → Routine ς ε Op Answer β} :
    (routine >>= next).wp contract exits post held world ↔
      routine.wp contract exits
        (fun value => (next value).wp contract exits post) held world := by
  refine Iff.trans Program.wp_bind (Iff.of_eq ?_)
  unfold wp
  congr 1
  funext result
  obtain ⟨result, owned⟩ := result
  cases result <;> rfl

@[simp] theorem wp_attempt {ε' : Type} {exits : ε' → ς → ω → Prop}
    {routine : Routine ς ε Op Answer α}
    {post : Except ε α → ς → ω → Prop} :
    (attempt routine : Routine ς ε' Op Answer (Except ε α)).wp contract exits
        post held world ↔
      routine.wp contract (fun exit => post (.error exit))
        (fun value => post (.ok value)) held world := by
  refine Iff.trans Program.wp_bind (Iff.of_eq ?_)
  unfold wp
  congr 1
  funext result
  obtain ⟨result, owned⟩ := result
  cases result <;> rfl

theorem wp_mono {routine : Routine ς ε Op Answer α}
    (holds : routine.wp contract exits post held world)
    (weaker : ∀ value owned world, post value owned world →
      post' value owned world) :
    routine.wp contract exits post' held world := by
  refine Program.wp_mono ?_ holds
  intro result world holds
  obtain ⟨result, owned⟩ := result
  cases result with
  | ok value => exact weaker value owned world holds
  | error exit => exact holds

theorem wp_each {body : β → Routine ς ε Op Answer Unit}
    (remaining : List β → ς → ω → Prop)
    (step : ∀ item rest owned world, remaining (item :: rest) owned world →
      (body item).wp contract exits (fun _ => remaining rest) owned world)
    {items : List β} (initially : remaining items held world) :
    (each items body).wp contract exits (fun _ => remaining []) held world := by
  induction items generalizing held world with
  | nil => exact initially
  | cons item rest induction =>
      refine wp_bind.mpr (wp_mono (step item rest held world initially) ?_)
      intro _ owned world holds
      exact induction holds

theorem wp_lift {result : Except ε α}
    (ok : ∀ value, result = .ok value → post value held world)
    (error : ∀ exit, result = .error exit → exits exit held world) :
    (lift result : Routine ς ε Op Answer α).wp contract exits post held
      world := by
  cases result with
  | ok value => exact ok value rfl
  | error exit => exact error exit rfl

theorem wp_loop {body : β → Routine ς ε Op Answer (Flow β)}
    (invariant : β → ς → ω → Prop)
    (round : ∀ locals owned world, invariant locals owned world →
      (body locals).wp contract exits
        (fun flow =>
          match flow with
          | .again locals => invariant locals
          | .stop locals => invariant locals)
        owned world)
    (rounds : Nat) {locals : β} (initially : invariant locals held world) :
    (loop body rounds locals).wp contract exits invariant held world := by
  induction rounds generalizing locals held world with
  | zero => exact initially
  | succ rounds induction =>
      refine wp_bind.mpr (wp_mono (round locals held world initially) ?_)
      intro flow owned world holds
      cases flow with
      | again locals => exact induction holds
      | stop locals => exact holds

theorem wp_rounds {body : β → Routine ς ε Op Answer (Flow β)}
    (invariant : Nat → β → ς → ω → Prop) {post : β → ς → ω → Prop}
    (round : ∀ rounds locals owned world,
      invariant (rounds + 1) locals owned world →
      (body locals).wp contract exits
        (fun flow =>
          match flow with
          | .again locals => invariant rounds locals
          | .stop locals => post locals)
        owned world)
    (none_left : ∀ locals owned world, invariant 0 locals owned world →
      post locals owned world)
    (rounds : Nat) {locals : β} (initially : invariant rounds locals held world) :
    (loop body rounds locals).wp contract exits post held world := by
  induction rounds generalizing locals held world with
  | zero => exact none_left locals held world initially
  | succ rounds induction =>
      refine wp_bind.mpr (wp_mono (round rounds locals held world initially) ?_)
      intro flow owned world holds
      cases flow with
      | again locals => exact induction holds
      | stop locals => exact holds

variable (contract) in
/-- From every state that meets `pre`, a routine keeps the contract, and meets
`post` where it returns and `fails` where it leaves early. -/
def Meets (pre : ς → ω → Prop) (routine : Routine ς ε Op Answer α)
    (post : α → ς → ω → Prop) (fails : ς → ω → Prop) : Prop :=
  ∀ held world, pre held world →
    routine.wp contract (fun _ => fails) post held world

section Triples

variable {pre : ς → ω → Prop} {fails fails' : ς → ω → Prop}

theorem Meets.pure {value : α} :
    Meets contract (post value)
      (Pure.pure value : Routine ς ε Op Answer α) post fails :=
  fun _ _ holds => holds

theorem Meets.leave {exit : ε} :
    Meets contract fails (Routine.leave exit : Routine ς ε Op Answer α) post
      fails :=
  fun _ _ holds => holds

theorem Meets.bind {routine : Routine ς ε Op Answer α}
    {next : α → Routine ς ε Op Answer β} {between : α → ς → ω → Prop}
    {post : β → ς → ω → Prop}
    (first : Meets contract pre routine between fails)
    (second : ∀ value, Meets contract (between value) (next value) post fails) :
    Meets contract pre (routine >>= next) post fails := by
  intro held world holds
  exact wp_bind.mpr (wp_mono (first held world holds) second)

theorem wp_mono_exits {exits exits' : ε → ς → ω → Prop}
    {routine : Routine ς ε Op Answer α}
    (holds : routine.wp contract exits post held world)
    (weaker : ∀ exit owned world, exits exit owned world →
      exits' exit owned world) :
    routine.wp contract exits' post held world := by
  refine Program.wp_mono ?_ holds
  intro result world holds
  obtain ⟨result, owned⟩ := result
  cases result with
  | ok value => exact holds
  | error exit => exact weaker exit owned world holds

theorem Meets.consequence {pre' : ς → ω → Prop}
    {routine : Routine ς ε Op Answer α}
    (holds : Meets contract pre routine post fails)
    (stronger : ∀ held world, pre' held world → pre held world)
    (weaker : ∀ value held world, post value held world →
      post' value held world)
    (failing : ∀ held world, fails held world → fails' held world) :
    Meets contract pre' routine post' fails' := by
  intro held world before
  apply wp_mono_exits
  · exact wp_mono (holds held world (stronger held world before)) weaker
  · exact fun _ => failing

theorem Meets.strengthen {pre' : ς → ω → Prop}
    {routine : Routine ς ε Op Answer α}
    (holds : Meets contract pre routine post fails)
    (stronger : ∀ held world, pre' held world → pre held world) :
    Meets contract pre' routine post fails :=
  fun held world before => holds held world (stronger held world before)

theorem Meets.assuming {fact : Prop} {routine : Routine ς ε Op Answer α}
    (holds : fact → Meets contract pre routine post fails) :
    Meets contract (fun held world => fact ∧ pre held world) routine post
      fails :=
  fun held world before => holds before.1 held world before.2

theorem Meets.relax
    {weaker : Contract (ς × Op) (fun request => Answer request.2) ω}
    (relaxes : weaker.Relaxes contract) {routine : Routine ς ε Op Answer α}
    (holds : Meets contract pre routine post fails) :
    Meets weaker pre routine post fails :=
  fun held world before => Program.wp_relax relaxes (holds held world before)

theorem Meets.learn {routine : Routine ς ε Op Answer α}
    {next : α → Routine ς ε Op Answer β} {fact : α → Prop}
    {between : α → ς → ω → Prop} {post : β → ς → ω → Prop}
    (first : Meets contract pre routine
      (fun value held world => fact value ∧ between value held world) fails)
    (second : ∀ value, fact value →
      Meets contract (between value) (next value) post fails) :
    Meets contract pre (routine >>= next) post fails :=
  Meets.bind first fun value => Meets.assuming (second value)

theorem Meets.exists {γ : Sort _} {pre : γ → ς → ω → Prop}
    {routine : Routine ς ε Op Answer α}
    (holds : ∀ parameter, Meets contract (pre parameter) routine post fails) :
    Meets contract (fun held world => ∃ parameter, pre parameter held world)
      routine post fails := by
  intro held world before
  obtain ⟨parameter, before⟩ := before
  exact holds parameter held world before

theorem Meets.attempt {ε' : Type} {routine : Routine ς ε Op Answer α}
    {post : α → ς → ω → Prop}
    (holds : Meets contract pre routine post fails) :
    Meets contract pre
      (Routine.attempt routine : Routine ς ε' Op Answer (Except ε α))
      (fun result held world =>
        match result with
        | .ok value => post value held world
        | .error _ => fails held world)
      fails' := by
  intro held world before
  exact wp_attempt.mpr (holds held world before)

theorem Meets.update {post : Unit → ς → ω → Prop} {change : ς → ς} :
    Meets contract (fun held => post () (change held))
      (Routine.update change : Routine ς ε Op Answer Unit) post fails :=
  fun _ _ holds => holds

theorem Meets.lift {result : Except ε α}
    (failing : ∀ held world, pre held world → fails held world) :
    Meets contract pre (Routine.lift result : Routine ς ε Op Answer α)
      (fun value held world => result = .ok value ∧ pre held world) fails := by
  intro held world before
  apply wp_lift
  · intro value same
    exact ⟨same, before⟩
  · intro _ _
    exact failing held world before

theorem Meets.each {body : β → Routine ς ε Op Answer Unit}
    (remaining : List β → ς → ω → Prop)
    (step : ∀ item rest, Meets contract (remaining (item :: rest)) (body item)
      (fun _ => remaining rest) fails)
    (items : List β) :
    Meets contract (remaining items) (Routine.each items body)
      (fun _ => remaining []) fails := by
  intro held world before
  exact wp_each remaining (fun item rest => step item rest) before

/-- A routine that a condition holds before, after and wherever it leaves. -/
abbrev Keeps (contract : Contract (ς × Op) (fun request => Answer request.2) ω)
    (kept : ς → ω → Prop) (routine : Routine ς ε Op Answer α) : Prop :=
  Meets contract kept routine (fun _ => kept) kept

variable {kept : ς → ω → Prop}

theorem Keeps.bind {routine : Routine ς ε Op Answer α}
    {next : α → Routine ς ε Op Answer β} (first : Keeps contract kept routine)
    (second : ∀ value, Keeps contract kept (next value)) :
    Keeps contract kept (routine >>= next) :=
  Meets.bind first second

theorem Keeps.attempt {ε' : Type} {routine : Routine ς ε Op Answer α}
    (holds : Keeps contract kept routine) :
    Keeps contract kept
      (Routine.attempt routine : Routine ς ε' Op Answer (Except ε α)) := by
  refine (Meets.attempt holds).consequence (fun _ _ holds => holds) ?_
    (fun _ _ holds => holds)
  intro result held world holds
  cases result <;> exact holds

theorem Keeps.each {body : β → Routine ς ε Op Answer Unit}
    (step : ∀ item, Keeps contract kept (body item)) (items : List β) :
    Keeps contract kept (Routine.each items body) :=
  Meets.each (fun _ => kept) (fun item _ => step item) items

theorem Keeps.eachMember {body : β → Routine ς ε Op Answer Unit}
    {items : List β} (step : ∀ item ∈ items, Keeps contract kept (body item)) :
    Keeps contract kept (Routine.each items body) := by
  induction items with
  | nil => exact fun _ _ holds => holds
  | cons item rest induction =>
      refine Keeps.bind (step item List.mem_cons_self) fun _ => ?_
      exact induction fun other member =>
        step other (List.mem_cons_of_mem _ member)

theorem Keeps.lift {result : Except ε α} :
    Keeps contract kept (Routine.lift result : Routine ς ε Op Answer α) :=
  (Meets.lift fun _ _ holds => holds).consequence (fun _ _ holds => holds)
    (fun _ _ _ holds => holds.2) (fun _ _ holds => holds)

theorem Keeps.loop {body : β → Routine ς ε Op Answer (Flow β)}
    (round : ∀ locals, Keeps contract kept (body locals)) (rounds : Nat)
    (locals : β) :
    Keeps contract kept (Routine.loop body rounds locals) := by
  intro held world before
  refine wp_loop (fun _ => kept) ?_ rounds before
  intro locals owned world holds
  refine wp_mono (round locals owned world holds) ?_
  intro flow owned world holds
  cases flow <;> exact holds

end Triples

end Routine

end NvidiaBuildLb.Foundation
