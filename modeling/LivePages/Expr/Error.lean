import LivePages.Expr.Token
import LivePages.Store.Type

namespace LivePages

/-- What is wrong with the text of an expression, a script or a loop header. -/
inductive Malformation where
  | badNumber (text : String)
  | openText
  | strayCharacter (c : Char)
  | missingMark (m : Mark)
  | missingExpression
  | missingProperty
  | missingVariable
  | missingLoopWord
  | trailingInput
deriving DecidableEq, Inhabited

def Malformation.message : Malformation → String
  | badNumber text => "invalid number `" ++ text ++ "`"
  | openText => "unterminated string"
  | strayCharacter c => "unexpected character `" ++ String.singleton c ++ "`"
  | missingMark m => "expected `" ++ String.ofList m.text ++ "`"
  | missingExpression => "expected an expression"
  | missingProperty => "expected property name"
  | missingVariable => "expected loop variable"
  | missingLoopWord => "expected `of` or `in`"
  | trailingInput => "unexpected trailing input"

/-- Why an evaluation failed. -/
inductive EvalError where
  | malformed (input : String) (offset : Nat) (cause : Malformation)
  | unknownBinding (name : String)
  | notCallable (what : String)
  | nullAccess (property : String)
  | notIterable (what : String)
  | typeMismatch (name : String) (cause : Mismatch)
  /-- An error raised by a bound function. -/
  | thrown (message : String)
deriving Inhabited

def EvalError.message : EvalError → String
  | malformed input offset cause =>
    "Syntax error at byte " ++ toString offset ++ " in `" ++ input ++ "`: " ++ cause.message
  | unknownBinding name => name ++ " is not defined"
  | notCallable what => what ++ " is not a function"
  | nullAccess property => "Cannot read properties of null (reading '" ++ property ++ "')"
  | notIterable what => what ++ " is not iterable"
  | typeMismatch name cause => "Cannot assign to " ++ name ++ ": " ++ cause.message
  | thrown message => message

end LivePages
