namespace Spreadsheet

/-!
# The operators of the formula language

An operator is written as one character, which is also its name. Formulas have no parentheses:
the order of `Operator.scanOrder` says which operators bind more loosely than others.
-/

/-- What an operation does with the numbers of its operands. -/
inductive Operator where
  | equal
  | less
  | plus
  | minus
  | times
  | divide
  deriving Repr, DecidableEq

namespace Operator

/-- All operators, from the one that binds most loosely to the one that binds most tightly. -/
def scanOrder : List Operator :=
  [.equal, .less, .plus, .minus, .times, .divide]

/-- The character that writes the operator. -/
def symbol : Operator → Char
  | .equal => '='
  | .less => '<'
  | .plus => '+'
  | .minus => '-'
  | .times => '*'
  | .divide => '/'

/-- The name of an operator is the text of its symbol. -/
def name (operator : Operator) : String :=
  String.ofList [operator.symbol]

/-- The operator that a character writes. -/
def ofSymbol? (character : Char) : Option Operator :=
  scanOrder.find? fun operator => operator.symbol == character

/-- The operator of a name. -/
def ofName? (name : String) : Option Operator :=
  match name.toList with
  | [character] => ofSymbol? character
  | _ => none

/-- The symbol can also stand before a number as its sign. -/
def isSign : Operator → Bool
  | .plus | .minus => true
  | _ => false

theorem mem_scanOrder
    (operator : Operator) :
    operator ∈ scanOrder := by
  cases operator <;> decide

theorem ofSymbol?_symbol
    (operator : Operator) :
    ofSymbol? operator.symbol = some operator := by
  cases operator <;> decide

theorem symbol_of_ofSymbol?_eq_some
    {character : Char}
    {operator : Operator}
    (found : ofSymbol? character = some operator) :
    operator.symbol = character := by
  simpa using List.find?_some found

theorem ofName?_name
    (operator : Operator) :
    ofName? operator.name = some operator := by
  cases operator <;> decide

end Operator

end Spreadsheet
