import QueryCheck.Proofs.Condition.Tracing

/-!
# Comparison chains are conjunctions

A chain compares adjacent operands and evaluates each of them once. The conjunction of the comparisons
evaluates the inner ones twice, but it stops at the same operand, with the same outcome.
-/

namespace QueryCheck.Condition.Expr

set_option autoImplicit false

/-- The comparisons of the operands behind `left`, each with its left neighbour. -/
def adjacent (left : Expr) : List (Comparison × Expr) → List Expr
  | [] => []
  | (op, right) :: rest => compare left [(op, right)] :: adjacent right rest

/-- `first op second and second op₂ e₂ and …`, grouped from the left -/
def conjunction (first : Expr) (op : Comparison) (second : Expr) (rest : List (Comparison × Expr)) :
    Expr :=
  (adjacent second rest).foldl and (compare first [(op, second)])

/-- The conjunctions that stand above `first`, from the root down. -/
def spine (first : Expr) : List Expr → List Expr
  | [] => []
  | next :: others => spine (and first next) others ++ [and first next]

/-- What the comparisons of adjacent operands visit, each its left operand and then its right one. -/
def pairVisits (row : Row) (left : Expr) : List (Comparison × Expr) → List Expr
  | [] => []
  | (op, right) :: rest =>
      compare left [(op, right)] :: (left.visits row ++ right.visits row) ++
        pairVisits row right rest

/-- Behind the value `left`, the chain reaches that many operands and ends with the outcome. -/
inductive Stops (row : Row) :
    Value → List (Comparison × Expr) → Nat → Except EvalError Value → Prop where
  | complete (left : Value) : Stops row left [] 0 (.ok (.bool true))
  | operandFails {left : Value} {op : Comparison} {operand : Expr}
      {rest : List (Comparison × Expr)} {e : EvalError} (fails : operand.eval row = .error e) :
      Stops row left ((op, operand) :: rest) 1 (.error e)
  | comparisonFails {left right : Value} {op : Comparison} {operand : Expr}
      {rest : List (Comparison × Expr)} {e : EvalError} (known : operand.eval row = .ok right)
      (fails : Value.compare op left right = .error e) :
      Stops row left ((op, operand) :: rest) 1 (.error e)
  | breaks {left right : Value} {op : Comparison} {operand : Expr}
      {rest : List (Comparison × Expr)} (known : operand.eval row = .ok right)
      (differs : Value.compare op left right = .ok false) :
      Stops row left ((op, operand) :: rest) 1 (.ok (.bool false))
  | holds {left right : Value} {op : Comparison} {operand : Expr}
      {rest : List (Comparison × Expr)} {reached : Nat} {outcome : Except EvalError Value}
      (known : operand.eval row = .ok right) (agrees : Value.compare op left right = .ok true)
      (later : Stops row right rest reached outcome) :
      Stops row left ((op, operand) :: rest) (reached + 1) outcome

variable {row : Row}

theorem stops_somewhere (row : Row) (left : Value) (links : List (Comparison × Expr)) :
    ∃ reached outcome, Stops row left links reached outcome := by
  induction links generalizing left with
  | nil => exact ⟨0, _, .complete left⟩
  | cons link rest induction =>
      obtain ⟨op, operand⟩ := link
      cases known : operand.eval row with
      | error e => exact ⟨1, _, .operandFails known⟩
      | ok right =>
          cases compared : Value.compare op left right with
          | error e => exact ⟨1, _, .comparisonFails known compared⟩
          | ok agrees =>
              cases agrees with
              | false => exact ⟨1, _, .breaks known compared⟩
              | true =>
                  obtain ⟨reached, outcome, later⟩ := induction right
                  exact ⟨reached + 1, outcome, .holds known compared later⟩

/-! ## The chain -/

theorem Stops.trace_links {left : Value} {links : List (Comparison × Expr)} {reached : Nat}
    {outcome : Except EvalError Value} (stops : Stops row left links reached outcome) :
    traceLinks row left links =
      ⟨((links.take reached).map Prod.snd).flatMap (visits row), outcome⟩ := by
  induction stops with
  | complete left => rfl
  | operandFails fails =>
      rw [traceLinks, trace_bind_of_error _ fails]
      simp
  | comparisonFails known fails =>
      rw [traceLinks, trace_bind_of_ok _ known, Traced.bind_of_error _ fails]
      simp [Traced.lift]
  | breaks known differs =>
      rw [traceLinks, trace_bind_of_ok _ known, Traced.bind_of_ok _ differs]
      simp [Traced.lift, pure]
  | holds known agrees later induction =>
      rw [traceLinks, trace_bind_of_ok _ known, Traced.bind_of_ok _ agrees]
      simp [Traced.lift, induction]

theorem Stops.eval_links {left : Value} {links : List (Comparison × Expr)} {reached : Nat}
    {outcome : Except EvalError Value} (stops : Stops row left links reached outcome) :
    evalLinks row left links = outcome := by
  rw [← links_outcome (fun operand _ => trace_outcome row operand), stops.trace_links]

theorem trace_chain {first : Expr} {left : Value} {links : List (Comparison × Expr)} {reached : Nat}
    {outcome : Except EvalError Value} (known : first.eval row = .ok left)
    (stops : Stops row left links reached outcome) :
    (compare first links).trace row =
      ⟨compare first links ::
        (first :: (links.take reached).map Prod.snd).flatMap (visits row), outcome⟩ := by
  rw [trace, trace_bind_of_ok _ known, stops.trace_links, Traced.visit, List.flatMap_cons]

theorem trace_chain_of_error {first : Expr} {e : EvalError} (links : List (Comparison × Expr))
    (fails : first.eval row = .error e) :
    (compare first links).trace row = ⟨compare first links :: first.visits row, .error e⟩ := by
  rw [trace, trace_bind_of_error _ fails, Traced.visit]

theorem trace_pair {left : Expr} {value : Value} (op : Comparison) (right : Expr)
    (known : left.eval row = .ok value) :
    (compare left [(op, right)]).trace row =
      ⟨compare left [(op, right)] :: (left.visits row ++ right.visits row),
        evalLinks row value [(op, right)]⟩ := by
  obtain ⟨reached, outcome, stops⟩ := stops_somewhere row value [(op, right)]
  rw [trace_chain known stops, stops.eval_links]
  cases stops with
  | holds known agrees later =>
      cases later
      simp
  | _ => simp

/-! ## The conjunction -/

theorem trace_and_of_true {left right : Expr} (holds : left.eval row = .ok (.bool true))
    (decided : ∀ value, right.eval row = .ok value → ∃ b, value = .bool b) :
    (and left right).trace row =
      ⟨and left right :: (left.visits row ++ right.visits row), right.eval row⟩ := by
  rw [trace, trace_bind_of_ok _ holds, Value.isTruthy, if_pos rfl]
  cases result : right.eval row with
  | error e =>
      rw [trace_bind_of_error _ result]
      rfl
  | ok value =>
      obtain ⟨b, rfl⟩ := decided value result
      rw [trace_bind_of_ok _ result]
      simp [Traced.visit, Traced.lift, pure, Value.isTruthy]

/-- The left side of a conjunction that settles it. -/
def Halts (row : Row) (e : Expr) : Prop :=
  ∀ value, e.eval row = .ok value → value = .bool false

theorem trace_and_of_halt {left : Expr} (right : Expr) (halts : Halts row left) :
    (and left right).trace row = ⟨and left right :: left.visits row, left.eval row⟩ := by
  rw [trace]
  cases result : left.eval row with
  | error e =>
      rw [trace_bind_of_error _ result]
      rfl
  | ok value =>
      cases halts value result
      rw [trace_bind_of_ok _ result]
      simp [Traced.visit, Traced.lift, pure, Value.isTruthy]

theorem trace_conjoined_of_halt {done : Expr} (others : List Expr) (halts : Halts row done) :
    (others.foldl and done).trace row = ⟨spine done others ++ done.visits row, done.eval row⟩ := by
  induction others generalizing done with
  | nil => exact trace_eq row done
  | cons next others induction =>
      obtain ⟨visited, same⟩ := trace_eq_iff.mp (trace_and_of_halt next halts)
      have halted : Halts row (and done next) := by
        intro value known
        exact halts value (same.symm.trans known)
      rw [List.foldl_cons, induction halted, same, visited, spine, List.append_assoc]
      rfl

theorem stops_reach {left : Value} {link : Comparison × Expr} {rest : List (Comparison × Expr)}
    {reached : Nat} {outcome : Except EvalError Value}
    (stops : Stops row left (link :: rest) reached outcome) : ∃ before, reached = before + 1 := by
  cases stops with
  | holds known agrees later => exact ⟨_, rfl⟩
  | _ => exact ⟨0, rfl⟩

theorem link_decides {left : Value} {op : Comparison} {operand : Expr} (value : Value)
    (known : evalLinks row left [(op, operand)] = .ok value) : ∃ b, value = .bool b := by
  obtain ⟨reached, outcome, stops⟩ := stops_somewhere row left [(op, operand)]
  rw [stops.eval_links] at known
  cases stops with
  | breaks => exact ⟨false, (Except.ok.inj known).symm⟩
  | holds _ _ later =>
      cases later
      exact ⟨true, (Except.ok.inj known).symm⟩
  | _ => cases known

theorem Stops.split {left : Value} {op : Comparison} {operand : Expr}
    {rest : List (Comparison × Expr)} {reached : Nat} {outcome : Except EvalError Value}
    (stops : Stops row left ((op, operand) :: rest) (reached + 1) outcome) :
    (reached = 0 ∧ evalLinks row left [(op, operand)] = outcome ∧
        ∀ value, outcome = .ok value → value = .bool false) ∨
      ∃ right, operand.eval row = .ok right ∧
        evalLinks row left [(op, operand)] = .ok (.bool true) ∧
        Stops row right rest reached outcome := by
  cases stops with
  | operandFails fails => exact .inl ⟨rfl, (Stops.operandFails fails).eval_links, nofun⟩
  | comparisonFails known fails =>
      exact .inl ⟨rfl, (Stops.comparisonFails known fails).eval_links, nofun⟩
  | breaks known differs =>
      refine .inl ⟨rfl, (Stops.breaks known differs).eval_links, ?_⟩
      rintro value ⟨⟩
      rfl
  | holds known agrees later =>
      exact .inr ⟨_, known, (Stops.holds known agrees (.complete _)).eval_links, later⟩

/-- A conjunction whose left part comes out as the first link does goes on as the chain does. -/
theorem trace_conjoined {done operand : Expr} {left : Value} {op : Comparison}
    {rest : List (Comparison × Expr)} {reached : Nat} {outcome : Except EvalError Value}
    (like : done.eval row = evalLinks row left [(op, operand)])
    (stops : Stops row left ((op, operand) :: rest) (reached + 1) outcome) :
    ((adjacent operand rest).foldl and done).trace row =
      ⟨spine done (adjacent operand rest) ++ done.visits row ++
        pairVisits row operand (rest.take reached), outcome⟩ := by
  -- The left part of the conjunction stands for the links that are behind: it is true as long as they
  -- hold. The operand of the last of them is evaluated again, to the value that the chain carries.
  induction rest generalizing done operand left op reached with
  | nil =>
      have ends : done.eval row = outcome := like.trans stops.eval_links
      rw [adjacent, List.foldl_nil, trace_eq, ends]
      simp [spine, pairVisits]
  | cons link rest induction =>
      obtain ⟨next, right⟩ := link
      rcases stops.split with ⟨rfl, ends, halts⟩ | ⟨value, known, holds, later⟩
      · have same : done.eval row = outcome := like.trans ends
        have halted : Halts row done := fun value known => halts value (same.symm.trans known)
        rw [trace_conjoined_of_halt _ halted, same]
        simp [pairVisits]
      · obtain ⟨before, rfl⟩ := stops_reach later
        obtain ⟨visited, compared⟩ := trace_eq_iff.mp (trace_pair next right known)
        have decided : ∀ result, (compare operand [(next, right)]).eval row = .ok result →
            ∃ b, result = .bool b :=
          fun result known => link_decides result (compared.symm.trans known)
        obtain ⟨joined, extended⟩ :=
          trace_eq_iff.mp (trace_and_of_true (like.trans holds) decided)
        rw [adjacent, List.foldl_cons, induction (extended.trans compared) later, joined, visited]
        simp [spine, pairVisits]

/-- The chain and the conjunction of its comparisons come out the same. Where the first operand has a
value, both evaluate the operands up to the same link, the one that stops the chain. -/
theorem chain_is_conjunction (first : Expr) (op : Comparison) (second : Expr)
    (rest : List (Comparison × Expr)) (row : Row) :
    (compare first ((op, second) :: rest)).eval row =
        (conjunction first op second rest).eval row ∧
      (∀ e, first.eval row = .error e →
        (compare first ((op, second) :: rest)).visits row =
            compare first ((op, second) :: rest) :: first.visits row ∧
          (conjunction first op second rest).visits row =
            spine (compare first [(op, second)]) (adjacent second rest) ++
              compare first [(op, second)] :: first.visits row) ∧
      ∀ left, first.eval row = .ok left →
        ∃ reached outcome, Stops row left ((op, second) :: rest) reached outcome ∧
          (compare first ((op, second) :: rest)).eval row = outcome ∧
          (compare first ((op, second) :: rest)).visits row =
            compare first ((op, second) :: rest) ::
              (first :: (((op, second) :: rest).take reached).map Prod.snd).flatMap (visits row) ∧
          (conjunction first op second rest).visits row =
            spine (compare first [(op, second)]) (adjacent second rest) ++
              pairVisits row first (((op, second) :: rest).take reached) := by
  cases result : first.eval row with
  | error e =>
      obtain ⟨visited, fails⟩ :=
        trace_eq_iff.mp (trace_chain_of_error ((op, second) :: rest) result)
      obtain ⟨pairVisited, pairFails⟩ :=
        trace_eq_iff.mp (trace_chain_of_error [(op, second)] result)
      have halts : Halts row (compare first [(op, second)]) := by
        intro value known
        rw [pairFails] at known
        cases known
      obtain ⟨conjoined, ends⟩ :=
        trace_eq_iff.mp (trace_conjoined_of_halt (adjacent second rest) halts)
      refine ⟨?_, ?_, nofun⟩
      · rw [conjunction, fails, ends, pairFails]
      · rintro _ ⟨⟩
        exact ⟨visited, by rw [conjunction, conjoined, pairVisited]⟩
  | ok left =>
      obtain ⟨reached, outcome, stops⟩ :=
        stops_somewhere row left ((op, second) :: rest)
      obtain ⟨before, rfl⟩ := stops_reach stops
      obtain ⟨visited, ends⟩ := trace_eq_iff.mp (trace_chain result stops)
      obtain ⟨pairVisited, like⟩ := trace_eq_iff.mp (trace_pair op second result)
      obtain ⟨conjoined, same⟩ := trace_eq_iff.mp (trace_conjoined like stops)
      refine ⟨?_, nofun, ?_⟩
      · rw [conjunction, ends, same]
      · rintro _ ⟨⟩
        refine ⟨before + 1, outcome, stops, ends, visited, ?_⟩
        rw [conjunction, conjoined, pairVisited]
        simp [pairVisits]

def feeLinks : List (Comparison × Expr) :=
  [(.less, .literal (.integer 3)), (.less, .field "status")]

def feeConjunction : Expr :=
  conjunction (.field "fee") .less (.literal (.integer 3)) [(.less, .field "status")]

/-- A fee of 5 breaks the first link, and the status is not missed. -/
theorem fee_chain_is_conjunction :
    ((field "fee").eval [] = .error (.unknownField "fee") ∧
      (compare (.field "fee") feeLinks).visits [] =
        [compare (.field "fee") feeLinks, .field "fee"]) ∧
    (field "fee").eval [("fee", .int64 5)] = .ok (.int64 5) ∧
      feeConjunction.eval [("fee", .int64 5)] = .ok (.bool false) ∧
      ∃ reached outcome, Stops [("fee", .int64 5)] (.int64 5) feeLinks reached outcome ∧
        (compare (.field "fee") feeLinks).eval [("fee", .int64 5)] = outcome := by
  obtain ⟨-, failing, -⟩ := chain_is_conjunction (.field "fee") .less (.literal (.integer 3))
    [(.less, .field "status")] []
  obtain ⟨same, -, known⟩ := chain_is_conjunction (.field "fee") .less (.literal (.integer 3))
    [(.less, .field "status")] [("fee", .int64 5)]
  have chain : (compare (.field "fee") feeLinks).eval [("fee", .int64 5)] = .ok (.bool false) :=
    rfl
  obtain ⟨reached, outcome, stops, ends, -⟩ := known (.int64 5) rfl
  exact ⟨⟨rfl, (failing _ rfl).1⟩, rfl, same.symm.trans chain, reached, outcome, stops, ends⟩

end QueryCheck.Condition.Expr
