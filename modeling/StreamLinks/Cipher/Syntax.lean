import StreamLinks.Text.Integer

/-!
# Syntax trees of the scrambler language

Objects of members and indices are plain variables, and arguments are plain
variables or literals: nesting happens only inside brackets and `%`.
-/

namespace StreamLinks.Cipher

inductive Arg where
  | literal (value : Int64)
  | variable (name : String)
deriving DecidableEq

/-- Expressions.  Each member access is a form of its own. -/
inductive Expr where
  | literal (value : Int64)
  | variable (name : String)
  | split (object : String)
  | reverse (object : String)
  | join (object : String)
  | length (object : String)
  | slice (object : String) (start : Expr)
  | index (object : String) (position : Expr)
  | modulo (dividend divisor : Expr)
  | call (function : String) (args : List Arg)
deriving DecidableEq

inductive Statement where
  | ret (value : Expr)
  | assign (target : String) (value : Expr)
  | assignAt (target : String) (position : Expr) (value : Expr)
deriving DecidableEq

structure Function where
  name : String
  params : List String
  body : List Statement
deriving DecidableEq

def Arg.source : Arg → String
  | .literal value => Text.writeInt64 value
  | .variable name => name

def Expr.source : Expr → String
  | .literal value => Text.writeInt64 value
  | .variable name => name
  | .split object => object ++ ".split(\"\")"
  | .reverse object => object ++ ".reverse()"
  | .join object => object ++ ".join(\"\")"
  | .length object => object ++ ".length"
  | .slice object start => object ++ ".slice(" ++ start.source ++ ")"
  | .index object position => object ++ "[" ++ position.source ++ "]"
  | .modulo dividend divisor => dividend.source ++ "%" ++ divisor.source
  | .call function args => function ++ "(" ++ ",".intercalate (args.map Arg.source) ++ ")"

end StreamLinks.Cipher
