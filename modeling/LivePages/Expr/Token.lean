/-! The tokens of expressions. A mark is never taken where a longer one would do. -/

namespace LivePages

/-- The marks of the expression language. -/
inductive Mark where
  | strictEq | strictNe | looseEq | looseNe | le | ge | and | or | plusAssign | minusAssign
  | lt | gt | plus | minus | star | slash | percent | not
  | openParen | closeParen | openBracket | closeBracket
  | comma | dot | question | colon | semicolon | assign
deriving DecidableEq, Inhabited

namespace Mark

/-- All marks, no mark before a longer one that it starts. -/
def all : List Mark :=
  [strictEq, strictNe, looseEq, looseNe, le, ge, and, or, plusAssign, minusAssign, lt, gt, plus,
    minus, star, slash, percent, not, openParen, closeParen, openBracket, closeBracket, comma, dot,
    question, colon, semicolon, assign]

def text : Mark → List Char
  | strictEq => ['=', '=', '=']
  | strictNe => ['!', '=', '=']
  | looseEq => ['=', '=']
  | looseNe => ['!', '=']
  | le => ['<', '=']
  | ge => ['>', '=']
  | and => ['&', '&']
  | or => ['|', '|']
  | plusAssign => ['+', '=']
  | minusAssign => ['-', '=']
  | lt => ['<']
  | gt => ['>']
  | plus => ['+']
  | minus => ['-']
  | star => ['*']
  | slash => ['/']
  | percent => ['%']
  | not => ['!']
  | openParen => ['(']
  | closeParen => [')']
  | openBracket => ['[']
  | closeBracket => [']']
  | comma => [',']
  | dot => ['.']
  | question => ['?']
  | colon => [':']
  | semicolon => [';']
  | assign => ['=']

/-- The longest mark at the start of `cs`. -/
def longest? (cs : List Char) : Option Mark := all.find? fun m => m.text.isPrefixOf cs

end Mark

inductive Token where
  | number (value : Float)
  | text (value : String)
  | name (value : String)
  | mark (value : Mark)
deriving Inhabited

/-- A token with the byte offset at which it starts. -/
structure Located where
  token : Token
  offset : Nat
deriving Inhabited

end LivePages
