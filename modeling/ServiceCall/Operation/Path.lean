import ServiceCall.Args
import ServiceCall.Encoding.Percent

/-!
# Addresses

An address is put together from fixed text and from arguments, each of which fills one segment and
is percent encoded for it. The base of an address may instead be named by an argument as a whole,
for services that run under addresses of their own; that argument is taken as it is.
-/

namespace ServiceCall

/-- A piece of an address. -/
inductive Piece where
  | text (s : String)
  | segment (arg : String)
  deriving DecidableEq

namespace Piece

/-- An argument without a text form leaves its segment empty. -/
def render (args : Args) : Piece → String
  | text s => s
  | segment arg => ((args.text? arg).map Encoding.Percent.segment).getD ""

def renderAll (args : Args) (pieces : List Piece) : String :=
  String.join (pieces.map (render args))

/-- The arguments that a list of pieces reads. -/
def reads (pieces : List Piece) : List String :=
  pieces.filterMap fun
    | text _ => none
    | segment arg => some arg

end Piece

/-- Where the addresses of a service begin. -/
inductive Base where
  | fixed (pieces : List Piece)
  /-- The text of an argument, or the default, without slashes at its end, then fixed text. -/
  | named (arg default rest : String)
  deriving DecidableEq

namespace Base

def render (args : Args) : Base → String
  | fixed pieces => Piece.renderAll args pieces
  | named arg default rest => Text.trimEndOf '/' ((args.string? arg).getD default) ++ rest

def reads : Base → List String
  | fixed pieces => Piece.reads pieces
  | named arg _ _ => [arg]

end Base

end ServiceCall
