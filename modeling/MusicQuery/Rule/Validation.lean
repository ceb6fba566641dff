import MusicQuery.Rule.Basic

namespace MusicQuery

inductive RuleFamily where
  | text
  | number
  | plays
  | file
deriving DecidableEq

namespace RuleFamily

def label : RuleFamily → String
  | text => "string metadata"
  | number => "numeric metadata"
  | plays => "play statistics"
  | file => "file property"

def fields : RuleFamily → List Field
  | text => [.title, .artist, .album, .genre]
  | number => [.year, .duration, .playCount, .bpm, .rating]
  | plays => [.playCount, .lastPlayed, .rating]
  | file => [.dateAdded, .format]

end RuleFamily

inductive Operand where
  | number
  | secondNumber
  | date
  | secondDate
deriving DecidableEq

def Operand.label : Operand → String
  | number => "numeric value"
  | secondNumber => "second value for between"
  | date => "date value"
  | secondDate => "second date for between"

inductive RuleError where
  | foreignField (family : RuleFamily) (field : Field)
  | foreignOperator (operator : Operator) (field : Field)
  | missingOperand (field : Field) (operand : Operand)
  | missingFormat
deriving DecidableEq

namespace RuleError

def kind : RuleError → String
  | foreignField _ _ => "InvalidField"
  | foreignOperator _ _ => "InvalidOperator"
  | missingOperand _ _ => "MissingOperand"
  | missingFormat => "MissingOperand"

def context : RuleError → String
  | foreignField family field => family.label ++ " rules cannot address field " ++ field.name
  | foreignOperator operator field =>
    "operator " ++ operator.name.capitalize ++ " is not valid for field " ++ field.name
  | missingOperand field operand => field.name ++ " rule needs a " ++ operand.label
  | missingFormat => "format rule needs at least one format"

def message (e : RuleError) : String := e.kind ++ ": " ++ e.context

end RuleError

def checkField (family : RuleFamily) (field : Field) : Except RuleError Unit :=
  if field ∈ family.fields then .ok () else .error (.foreignField family field)

def checkOperator (allowed : List Operator) (operator : Operator) (field : Field) : Except RuleError Unit :=
  if operator ∈ allowed then .ok () else .error (.foreignOperator operator field)

def checkOperand {α : Type} (field : Field) (operand : Operand) (value : Option α) : Except RuleError Unit :=
  if value.isSome then .ok () else .error (.missingOperand field operand)

def TextRule.validate (r : TextRule) : Except RuleError Unit := do
  checkField .text r.field
  checkOperator Operator.ofText r.operator r.field

def NumberRule.validate (r : NumberRule) : Except RuleError Unit := do
  checkField .number r.field
  checkOperator Operator.ofOrder r.operator r.field
  if r.operator = .between then checkOperand r.field .secondNumber r.secondValue

def PlayRule.validate (r : PlayRule) : Except RuleError Unit := do
  checkField .plays r.field
  checkOperator Operator.ofOrder r.operator r.field
  if r.field = .lastPlayed then
    checkOperand r.field .date r.date
    if r.operator = .between then checkOperand r.field .secondDate r.secondDate
  else
    checkOperand r.field .number r.number
    if r.operator = .between then checkOperand r.field .secondNumber r.secondNumber

def FileRule.validate (r : FileRule) : Except RuleError Unit := do
  checkField .file r.field
  if r.field = .format then
    checkOperator Operator.ofFormat r.operator r.field
    if (r.formats.getD []).isEmpty then throw .missingFormat
  else
    checkOperator Operator.ofOrder r.operator r.field
    checkOperand r.field .date r.date
    if r.operator = .between then checkOperand r.field .secondDate r.secondDate

mutual

def Rule.validate : Rule → Except RuleError Unit
  | .text r => r.validate
  | .number r => r.validate
  | .plays r => r.validate
  | .file r => r.validate
  | .group _ members => Rule.validateAll members

def Rule.validateAll : List Rule → Except RuleError Unit
  | [] => .ok ()
  | r :: rs => do
    r.validate
    Rule.validateAll rs

end

def Rule.validated (r : Rule) : Except RuleError Rule := do
  r.validate
  return r

end MusicQuery
