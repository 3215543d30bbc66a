/-
Tokens: the pieces that an equation is made of.
-/
import Reckon.Excerpt

namespace Reckon

/-- A piece is a value, an operator, a parenthesis or a separator. -/
inductive TokenKind
  | value | operator | opening | closing | separator
deriving DecidableEq

namespace TokenKind

def name : TokenKind → Text
  | value => "value".toList
  | operator => "operator".toList
  | opening => "open".toList
  | closing => "close".toList
  | separator => "separator".toList

def named? (name : Text) : Option TokenKind :=
  [value, operator, opening, closing, separator].find? fun k => k.name == name

end TokenKind

/-- A piece of an equation with its place in the source.  Scanning puts a token exactly where its
text stands, but tokens from elsewhere may claim any place. -/
structure Token where
  kind : TokenKind
  text : Text
  start : Int
  stop : Int
deriving DecidableEq

/-- The part of the source from the first to the last of some tokens. -/
def Excerpt.covering (source : Text) (tokens : List Token) : Excerpt where
  source := source
  start := (tokens.head?.map Token.start).getD 0
  stop := (tokens.getLast?.map Token.stop).getD 0

end Reckon
