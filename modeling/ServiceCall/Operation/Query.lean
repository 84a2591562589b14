import ServiceCall.Args

/-!
# Queries

The parameters of a query, in the order in which they are listed. A parameter is left out when its
argument has no form that could be sent.
-/

namespace ServiceCall

inductive Param where
  /-- An argument in its query form, under its own name. -/
  | query (arg : String)
  /-- The text of an argument under another name. -/
  | text (arg name : String)
  /-- The text of an argument under its own name, or the default. -/
  | textOr (arg default : String)
  deriving DecidableEq

namespace Param

def render? (args : Args) : Param → Option (String × String)
  | query arg => (args.query? arg).map (arg, ·)
  | text arg name => (args.text? arg).map (name, ·)
  | textOr arg default => some (arg, args.textOr arg default)

def renderAll (args : Args) (params : List Param) : List (String × String) :=
  params.filterMap (render? args)

def arg : Param → String
  | query arg | text arg _ | textOr arg _ => arg

/-- The name under which the parameter is sent. -/
def sentAs : Param → String
  | query arg | textOr arg _ => arg
  | text _ name => name

def reads (params : List Param) : List String := params.map arg

end Param

end ServiceCall
