import Mathlib.Data.List.Basic
import Mathlib.Data.List.Induction
import Mathlib.Data.Nat.Find
import Mathlib.Order.Bounds.Basic
import PocketCalculator.Expression.Evaluation

/-!
# The value of a row of tokens by positions

What a row of tokens means can be said without a running state, index by index.  A
number after the first token is orphaned if the token right before it is the first one
or a number (`Orphaned`), and zero-divided if it is zero and the token right before it,
but not the first one, is the division sign (`ZeroDivided`).  A number right after an
operator is an operation (`operationAt?`).

**The value of a row of tokens is what its positions say**
(`evaluateTokens_by_position`): the first fault decides the failure, and without a fault
the value is the left fold of the operations from the value of the first token.

The row grows at its end, where one more token adds one index and leaves all others as
they are; the operator that waits is then the last token, if that is an operator
(`run_of_faultless`).  A first fault stands after a row without a fault, so it is what
stops the run (`run_of_first_fault`).
-/

set_option autoImplicit false

namespace PocketCalculator

/-! ## Operators that do not fail -/

namespace Operator

/-- The number that an operator gives where it does not fail. -/
def result (operator : Operator) (left right : Binary64) : Binary64 :=
  match operator with
  | add => left.add right
  | subtract => left.sub right
  | multiply => left.mul right
  | divide => left.div right
  | modulo => left.remainder right

/-- Division by zero is the one failure of an operator. -/
theorem apply_eq_ok {operator : Operator} {right : Binary64}
    (fine : ¬ (operator = .divide ∧ right.isZero = true)) (left : Binary64) :
    operator.apply left right = .ok (operator.result left right) := by
  cases operator with
  | divide =>
      have nonzero : ¬ right.isZero = true := fun zero => fine ⟨rfl, zero⟩
      rw [apply, if_neg nonzero, result]
  | _ => rfl

theorem apply_divide_zero {right : Binary64} (zero : right.isZero = true) (left : Binary64) :
    divide.apply left right = .error .divisionByZero := by
  rw [apply, if_pos zero]

end Operator

namespace Token

/-! ## Faults and operations -/

/-- A number stands at an index. -/
def NumberAt (tokens : List Token) (index : Nat) : Prop :=
  ∃ literal percent, tokens[index]? = some (.number literal percent)

/-- A number after the first token that has no operator: it follows the first token,
which is taken as a value, or another number. -/
def Orphaned (tokens : List Token) (index : Nat) : Prop :=
  1 ≤ index ∧ NumberAt tokens index ∧ (index = 1 ∨ NumberAt tokens (index - 1))

/-- A number that is zero, of either sign, after a division sign that is not the first
token. -/
def ZeroDivided (tokens : List Token) (index : Nat) : Prop :=
  2 ≤ index ∧ tokens[index - 1]? = some (.operator .divide) ∧
    ∃ literal percent, tokens[index]? = some (.number literal percent) ∧
      (value (.number literal percent)).isZero = true

/-- An index at which a row of tokens fails. -/
def Faulty (tokens : List Token) (index : Nat) : Prop :=
  Orphaned tokens index ∨ ZeroDivided tokens index

/-- The operation at an index: a number there and the operator right before it. -/
def operationAt? (tokens : List Token) : Nat → Option (Operator × Binary64)
  | 0 => none
  | before + 1 =>
      match tokens[before]?, tokens[before + 1]? with
      | some (.operator symbol), some (.number literal percent) =>
          some (symbol, value (.number literal percent))
      | _, _ => none

/-- The operations of a row of tokens in order. -/
def operations (tokens : List Token) : List (Operator × Binary64) :=
  (List.range tokens.length).filterMap (operationAt? tokens)

/-- The left fold of operations from a value. -/
def foldOperations (start : Binary64) (steps : List (Operator × Binary64)) : Binary64 :=
  steps.foldl (fun total step => step.1.result total step.2) start

/-- The operator that waits after a row of tokens: its last token, if that is an operator. -/
def waiting (tokens : List Token) : Option Operator :=
  match tokens.getLast? with
  | some (.operator symbol) => some symbol
  | _ => none

/-! ## Rows that grow at their end -/

section Append

variable {tokens more : List Token} {index : Nat}

theorem getElem?_append_of_some {token : Token} (here : tokens[index]? = some token) :
    (tokens ++ more)[index]? = some token := by
  rw [List.getElem?_append_left (List.getElem?_eq_some_iff.mp here).1, here]

theorem NumberAt.append (number : NumberAt tokens index) : NumberAt (tokens ++ more) index := by
  obtain ⟨literal, percent, here⟩ := number
  exact ⟨literal, percent, getElem?_append_of_some here⟩

/-- A fault stays a fault. -/
theorem Faulty.append (fault : Faulty tokens index) : Faulty (tokens ++ more) index := by
  rcases fault with ⟨later, number, alone⟩ | ⟨later, sign, literal, percent, here, zero⟩
  · exact .inl ⟨later, number.append, alone.imp_right NumberAt.append⟩
  · exact .inr ⟨later, getElem?_append_of_some sign, literal, percent,
      getElem?_append_of_some here, zero⟩

/-- A fault is at an index of the row. -/
theorem Faulty.lt_length (fault : Faulty tokens index) : index < tokens.length := by
  rcases fault with ⟨_, ⟨literal, percent, here⟩, _⟩ | ⟨_, _, literal, percent, here, _⟩
  · exact (List.getElem?_eq_some_iff.mp here).1
  · exact (List.getElem?_eq_some_iff.mp here).1

theorem operationAt?_append (inside : index < tokens.length) :
    operationAt? (tokens ++ more) index = operationAt? tokens index := by
  cases index with
  | zero => rfl
  | succ before =>
      rw [operationAt?, operationAt?, List.getElem?_append_left inside,
        List.getElem?_append_left (Nat.lt_of_succ_lt inside)]

/-- One more token adds at most the operation at its own index. -/
theorem operations_append_singleton (tokens : List Token) (token : Token) :
    operations (tokens ++ [token]) = operations tokens ++
      (operationAt? (tokens ++ [token]) tokens.length).toList := by
  have earlier : (List.range tokens.length).filterMap (operationAt? (tokens ++ [token]))
      = operations tokens :=
    List.filterMap_congr fun index member => operationAt?_append (List.mem_range.mp member)
  rw [operations, List.length_append, List.length_singleton, List.range_succ,
    List.filterMap_append, earlier]
  rfl

end Append

theorem waiting_append_singleton (tokens : List Token) (token : Token) :
    waiting (tokens ++ [token]) =
      match token with
      | .operator symbol => some symbol
      | .number _ _ => none := by
  rw [waiting, List.getLast?_concat]
  cases token <;> rfl

/-! ## The token after a row -/

section NextToken

variable (first : Token) (before after : List Token) {literal : Binary64} {percent : Bool}

/-- An operator waits exactly if it is the last token and not the first. -/
theorem waiting_eq_some_iff {symbol : Operator} :
    waiting before = some symbol ↔
      1 ≤ before.length ∧ (first :: before)[before.length]? = some (.operator symbol) := by
  rcases List.eq_nil_or_concat before with rfl | ⟨front, last, rfl⟩
  · simp [waiting]
  · rw [List.concat_eq_append, waiting_append_singleton]
    cases last <;> simp

/-- No operator waits exactly if the last token is the first one or a number. -/
theorem waiting_eq_none_iff :
    waiting before = none ↔ before.length = 0 ∨ NumberAt (first :: before) before.length := by
  rcases List.eq_nil_or_concat before with rfl | ⟨front, last, rfl⟩
  · simp [waiting]
  · rw [List.concat_eq_append, waiting_append_singleton]
    cases last <;> simp [NumberAt]

theorem getElem?_next (token : Token) :
    (first :: before ++ token :: after)[before.length + 1]? = some token := by
  show (first :: before ++ token :: after)[(first :: before).length]? = some token
  rw [List.getElem?_append_right (Nat.le_refl _), Nat.sub_self]
  rfl

theorem getElem?_last (token : Token) :
    (first :: before ++ token :: after)[before.length]? = (first :: before)[before.length]? :=
  List.getElem?_append_left (Nat.lt_succ_self _)

/-- A number is orphaned exactly if no operator waits before it. -/
theorem orphaned_next_iff (token : Token) :
    Orphaned (first :: before ++ token :: after) (before.length + 1) ↔
      token.isNumber = true ∧ waiting before = none := by
  have last : NumberAt (first :: before ++ token :: after) before.length ↔
      NumberAt (first :: before) before.length := by
    rw [NumberAt, NumberAt, getElem?_last]
  have here : NumberAt (first :: before ++ token :: after) (before.length + 1) ↔
      token.isNumber = true := by
    rw [NumberAt, getElem?_next]
    cases token <;> simp [isNumber]
  rw [Orphaned, here, Nat.add_sub_cancel, last, waiting_eq_none_iff first before]
  simp

/-- A number is zero-divided exactly if it is zero and a division waits before it. -/
theorem zeroDivided_next_iff (token : Token) :
    ZeroDivided (first :: before ++ token :: after) (before.length + 1) ↔
      waiting before = some .divide ∧ token.value.isZero = true := by
  have here : (∃ literal percent,
        (first :: before ++ token :: after)[before.length + 1]? = some (.number literal percent) ∧
          (value (.number literal percent)).isZero = true) ↔ token.value.isZero = true := by
    rw [getElem?_next]
    cases token with
    | number literal percent =>
        constructor
        · rintro ⟨_, _, ⟨⟩, zero⟩
          exact zero
        · intro zero
          exact ⟨literal, percent, rfl, zero⟩
    | operator symbol => simp [value, Binary64.isZero]
  rw [ZeroDivided, here, Nat.add_sub_cancel, getElem?_last, waiting_eq_some_iff first before,
    and_assoc]
  simp

/-- A number after an operator that waits is an operation. -/
theorem operationAt?_number {symbol : Operator} (waits : waiting before = some symbol) :
    operationAt? (first :: before ++ .number literal percent :: after) (before.length + 1) =
      some (symbol, value (.number literal percent)) := by
  have last := ((waiting_eq_some_iff first before).mp waits).2
  rw [operationAt?, getElem?_next, getElem?_last, last]

theorem operationAt?_operator (symbol : Operator) :
    operationAt? (first :: before ++ .operator symbol :: after) (before.length + 1) = none := by
  rw [operationAt?, getElem?_next]
  split
  · rename_i found
    injection found with found
    contradiction
  · rfl

end NextToken
end Token

namespace Evaluation

open Token

/-! ## Runs without a fault -/

/-- **Without a fault a run folds the operations**, and after it the last token waits if
it is an operator. -/
theorem run_of_faultless {first : Token} {rest : List Token}
    (faultless : ∀ index, ¬ Faulty (first :: rest) index) :
    Progress.run { total := first.value } rest =
      .ok { total := foldOperations first.value (operations (first :: rest)),
            pending := waiting rest } := by
  induction rest using List.reverseRecOn with
  | nil => rfl
  | append_singleton before token ih =>
      rw [← List.cons_append] at faultless ⊢
      have run := ih fun index fault => faultless index fault.append
      rw [run_append, run, operations_append_singleton, waiting_append_singleton]
      dsimp only [List.length_cons]
      cases token with
      | operator symbol =>
          rw [operationAt?_operator, Option.toList_none, List.append_nil]
          rfl
      | number literal percent =>
          have fine := faultless (before.length + 1)
          rw [Faulty, orphaned_next_iff, zeroDivided_next_iff, not_or] at fine
          obtain ⟨symbol, waits⟩ := Option.ne_none_iff_exists'.mp fun none => fine.1 ⟨rfl, none⟩
          rw [operationAt?_number first before [] waits]
          rw [waits] at fine ⊢
          have nonzero : ¬ (symbol = .divide ∧ (value (.number literal percent)).isZero = true) :=
            fun both => fine.2 ⟨congrArg some both.1, both.2⟩
          have applied := Operator.apply_eq_ok nonzero
          simp only [Progress.run, Progress.step, applied, foldOperations, Option.toList_some,
            List.foldl_append, List.foldl_cons, List.foldl_nil]

/-! ## The first fault -/

/-- A fault is at a token after the first. -/
theorem exists_split_of_faulty {first : Token} {rest : List Token} {index : Nat}
    (fault : Faulty (first :: rest) index) :
    ∃ before token after, rest = before ++ token :: after ∧ index = before.length + 1 := by
  have inside := fault.lt_length
  obtain ⟨place, rfl⟩ : ∃ place, index = place + 1 := by
    apply Nat.exists_eq_succ_of_ne_zero
    rcases fault with ⟨later, _⟩ | ⟨later, _⟩ <;> omega
  rw [List.length_cons] at inside
  have inside := Nat.lt_of_succ_lt_succ inside
  refine ⟨rest.take place, rest[place], rest.drop (place + 1), ?_, ?_⟩
  · rw [← List.drop_eq_getElem_cons inside, List.take_append_drop]
  · rw [List.length_take, Nat.min_eq_left inside.le]

/-- **The first fault ends a run.** No token before it is at fault, so the run gets
there with the operator that waits, and that decides what the fault is. -/
theorem run_of_first_fault {first : Token} {rest : List Token} {index : Nat}
    (least : IsLeast {index | Faulty (first :: rest) index} index) :
    (Orphaned (first :: rest) index →
      Progress.run { total := first.value } rest = .error .missingOperator) ∧
    (ZeroDivided (first :: rest) index →
      Progress.run { total := first.value } rest = .error .divisionByZero) := by
  obtain ⟨before, token, after, rfl, rfl⟩ := exists_split_of_faulty least.1
  have faultless : ∀ earlier, ¬ Faulty (first :: before) earlier := by
    intro earlier fault
    have longer : Faulty (first :: (before ++ token :: after)) earlier := fault.append
    exact absurd fault.lt_length (Nat.not_lt.mpr (least.2 longer))
  rw [← List.cons_append, orphaned_next_iff, zeroDivided_next_iff, run_append,
    run_of_faultless faultless]
  dsimp only
  cases token with
  | operator symbol =>
      exact ⟨fun orphaned => absurd orphaned.1 Bool.false_ne_true,
        fun zero => absurd zero.2 Bool.false_ne_true⟩
  | number literal percent =>
      constructor
      · rintro ⟨_, none⟩
        rw [Progress.run, Progress.step, none]
      · rintro ⟨waits, zero⟩
        rw [Progress.run, Progress.step, waits]
        dsimp only
        rw [Operator.apply_divide_zero zero]

/-! ## All rows -/

/-- What a row of tokens means: only the empty row is no expression, the first fault
decides between the other failures, and without a fault the value is the left fold of the
operations from the value of the first token. -/
inductive Meaning (tokens : List Token) : Outcome → Prop where
  | empty (noToken : tokens = []) : Meaning tokens (.error .invalidExpression)
  | orphaned {index : Nat} (least : IsLeast {index | Faulty tokens index} index)
      (orphaned : Orphaned tokens index) : Meaning tokens (.error .missingOperator)
  | zeroDivided {index : Nat} (least : IsLeast {index | Faulty tokens index} index)
      (zeroDivided : ZeroDivided tokens index) : Meaning tokens (.error .divisionByZero)
  | value {first : Token} {rest : List Token} (split : tokens = first :: rest)
      (faultless : ∀ index, ¬ Faulty tokens index) :
      Meaning tokens (.ok (foldOperations first.value (operations tokens)))

/-- A fault is in a row with a first token. -/
theorem exists_cons_of_faulty {tokens : List Token} {index : Nat} (fault : Faulty tokens index) :
    ∃ first rest, tokens = first :: rest :=
  List.exists_cons_of_length_pos (Nat.zero_lt_of_lt fault.lt_length)

/-- A row of tokens has the value or the failure that it means. -/
theorem Meaning.evaluateTokens_eq {tokens : List Token} {outcome : Outcome}
    (meaning : Meaning tokens outcome) : evaluateTokens tokens = outcome := by
  cases meaning with
  | empty noToken =>
      rw [noToken]
      rfl
  | orphaned least orphaned =>
      obtain ⟨first, rest, rfl⟩ := exists_cons_of_faulty least.1
      rw [evaluateTokens, (run_of_first_fault least).1 orphaned]
  | zeroDivided least zeroDivided =>
      obtain ⟨first, rest, rfl⟩ := exists_cons_of_faulty least.1
      rw [evaluateTokens, (run_of_first_fault least).2 zeroDivided]
  | value split faultless =>
      subst split
      rw [evaluateTokens, run_of_faultless faultless]

/-- Every row of tokens means something. -/
theorem exists_meaning (tokens : List Token) : ∃ outcome, Meaning tokens outcome := by
  classical
  by_cases faulty : ∃ index, Faulty tokens index
  · have least : IsLeast {index | Faulty tokens index} (Nat.find faulty) :=
      ⟨Nat.find_spec faulty, fun index fault => Nat.find_min' faulty fault⟩
    rcases Nat.find_spec faulty with orphaned | zeroDivided
    · exact ⟨_, .orphaned least orphaned⟩
    · exact ⟨_, .zeroDivided least zeroDivided⟩
  · cases tokens with
    | nil => exact ⟨_, .empty rfl⟩
    | cons first rest => exact ⟨_, .value rfl (not_exists.mp faulty)⟩

theorem evaluateTokens_eq_iff {tokens : List Token} {outcome : Outcome} :
    evaluateTokens tokens = outcome ↔ Meaning tokens outcome := by
  constructor
  · rintro rfl
    obtain ⟨outcome, meaning⟩ := exists_meaning tokens
    rw [meaning.evaluateTokens_eq]
    exact meaning
  · exact Meaning.evaluateTokens_eq

/-- **The value of a row of tokens is what its positions say.** -/
theorem evaluateTokens_by_position (tokens : List Token) :
    (evaluateTokens tokens = .error .invalidExpression ↔ tokens = []) ∧
    (evaluateTokens tokens = .error .missingOperator ↔
      ∃ index, IsLeast {index | Faulty tokens index} index ∧ Orphaned tokens index) ∧
    (evaluateTokens tokens = .error .divisionByZero ↔
      ∃ index, IsLeast {index | Faulty tokens index} index ∧ ZeroDivided tokens index) ∧
    ∀ value, evaluateTokens tokens = .ok value ↔
      (∀ index, ¬ Faulty tokens index) ∧ ∃ first rest, tokens = first :: rest ∧
        value = foldOperations first.value (operations tokens) := by
  simp only [evaluateTokens_eq_iff]
  refine ⟨⟨?_, .empty⟩, ⟨?_, ?_⟩, ⟨?_, ?_⟩, fun value => ⟨?_, ?_⟩⟩
  · intro meaning
    cases meaning with
    | empty noToken => exact noToken
  · intro meaning
    cases meaning with
    | orphaned least orphaned => exact ⟨_, least, orphaned⟩
  · rintro ⟨index, least, orphaned⟩
    exact .orphaned least orphaned
  · intro meaning
    cases meaning with
    | zeroDivided least zeroDivided => exact ⟨_, least, zeroDivided⟩
  · rintro ⟨index, least, zeroDivided⟩
    exact .zeroDivided least zeroDivided
  · intro meaning
    cases meaning with
    | value split faultless => exact ⟨faultless, _, _, split, rfl⟩
  · rintro ⟨faultless, first, rest, split, rfl⟩
    exact .value split faultless

end Evaluation
end PocketCalculator
