import Calculator.Decimal.Reader
import Calculator.Analysis.Newton
import Calculator.Text.Split

/-!
# Cash flows and their rate of return

A series of cash flows, one for every period from zero on, its net present
value at a rate and the rate at which that value vanishes.
-/

namespace Calculator

/-- What is wrong with the text of a series of cash flows. -/
inductive CashFlowDefect
  | notNumber (index : Nat) (entry : String)
  | notFinite (index : Nat) (entry : String)
  | tooFew
  deriving DecidableEq, Repr

/-- Why the text of a series of cash flows is refused. -/
structure CashFlowError where
  source : String
  defect : CashFlowDefect
  deriving DecidableEq, Repr

namespace CashFlowDefect

/-- The period of the entry at fault, if there is one. -/
def index? : CashFlowDefect → Option Nat
  | .notNumber index _ => some index
  | .notFinite index _ => some index
  | .tooFew => none

/-- The wording of a defect. -/
def message : CashFlowDefect → String
  | .notNumber index entry =>
      s!"Cash flow {index} is not a number: '" ++ entry ++ "'"
  | .notFinite index entry =>
      s!"Cash flow {index} is not finite: '" ++ entry ++ "'"
  | .tooFew => "At least two cash flows are required"

end CashFlowDefect

namespace CashFlow

open Scalar Elementary

section Text

variable {α : Type} [Scalar α]

/-- The cash flow that an entry writes for a period. -/
def readEntry (index : Nat) (entry : List Char) : Except CashFlowDefect α :=
  let bare := trimmed isBlank entry
  match (Decimal.read? bare : Option α) with
  | none => .error (.notNumber index (String.ofList bare))
  | some flow =>
      if isFinite flow then .ok flow
      else .error (.notFinite index (String.ofList bare))

/-- The cash flows that entries write for the periods from `index` on. -/
def readEntries : (index : Nat) → List (List Char) → Except CashFlowDefect (List α)
  | _, [] => .ok []
  | index, entry :: rest => do
      let flow ← readEntry index entry
      return flow :: (← readEntries (index + 1) rest)

/-- The series that a text of numbers between commas writes, at least two of
them. -/
def read (text : String) : Except CashFlowError (List α) :=
  let series : Except CashFlowDefect (List α) := do
    let flows ← readEntries 0 (separated ',' text.toList)
    if flows.length < 2 then throw .tooFew
    return flows
  series.mapError fun defect => ⟨text, defect⟩

end Text

variable {α : Type} [Elementary α]

/-- The factor by which an amount grows over a number of periods, undefined where
it vanishes and infinite where it cannot be computed. -/
def growth (rate : α) (period : Nat) : α :=
  match pow? (1.0 + rate) (ofInt period) with
  | .error _ => infinity
  | .ok factor => if isZero factor then nan else factor

/-- The sum of a list from left to right. -/
def sumFromLeft (terms : List α) : α :=
  terms.foldl (· + ·) 0.0

/-- The net present value of a series at a rate: every flow is divided by the
factor of its period. -/
def netPresentValue (flows : List α) (rate : α) : Except Fault α :=
  if isZero (1.0 + rate) then .ok nan
  else
    (flows.zipIdx.mapM fun (flow, period) => divide? flow (growth rate period)).map sumFromLeft

/-- The derivative of the net present value by the rate. The flow of period
zero does not contribute. -/
def netPresentSlope (flows : List α) (rate : α) : Except Fault α :=
  if isZero (1.0 + rate) then .ok nan
  else
    let later := flows.zipIdx.filter fun (_, period) => 0 < period
    (later.mapM fun (flow, (period : Nat)) =>
      divide? (ofInt (-(period : Int)) * flow) (growth rate (period + 1))).map sumFromLeft

/-- Whether a series has a flow above zero and one below. -/
def changesSign (flows : List α) : Bool :=
  flows.any isPositive && flows.any isNegative

/-- A rate of minus one hundred percent or less is no rate of return. -/
def admitted (result : Iteration α) : Iteration α :=
  if result.converged && Number.atMost result.value (.real (-1.0)) then
    ⟨result.value, result.iterations, false, some .invalidRate⟩
  else result

/-- The rate at which the net present value of a series vanishes. A series
without a change of sign is refused before the search. -/
def internalRate (search : RootSearch α) (flows : List α) : Except Fault (Iteration α) :=
  if changesSign flows then
    (search.newton id (netPresentValue flows) (netPresentSlope flows)).map admitted
  else .ok ⟨.real nan, 0, false, some .noSignChange⟩

end CashFlow

end Calculator
