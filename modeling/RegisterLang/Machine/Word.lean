import RegisterLang.Failure

namespace RegisterLang

/-- The result of an operation. Division goes toward zero, and the remainder has the sign of the
dividend. -/
def Operation.apply (op : Operation) (lhs rhs : Int64) : Except RuntimeFault Int64 :=
  match op with
  | .add => .ok (lhs + rhs)
  | .subtract => .ok (lhs - rhs)
  | .multiply => .ok (lhs * rhs)
  | .divide => if rhs = 0 then .error .divisionByZero else .ok (lhs / rhs)
  | .modulus => if rhs = 0 then .error .divisionByZero else .ok (lhs % rhs)

def Condition.holds (c : Condition) (value : Int64) : Bool :=
  match c with
  | .positive => 0 < value
  | .negative => value < 0
  | .zero => value = 0

end RegisterLang
