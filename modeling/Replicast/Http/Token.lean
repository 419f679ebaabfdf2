/-!
# Tokens and methods

Header names and request methods are tokens: words of letters, digits and a few marks.

## Overview

* `Token.isTokenChar` is the alphabet of a token.
* `Method` is a non-empty token; its letter case counts.
-/

namespace Replicast

namespace Token

/-- The alphabet of a token: letters, digits and fifteen marks. -/
def isTokenChar (c : Char) : Bool :=
  c.isAlphanum || "!#$%&'*+-.^_|~\x60".toList.contains c

/-- A non-empty word over the alphabet. -/
def isToken (text : List Char) : Bool :=
  !text.isEmpty && text.all isTokenChar

end Token

structure Method where
  name : String
deriving DecidableEq, Repr

namespace Method

/-- The method with a given name, if the name is a token. -/
def ofString? (name : String) : Option Method :=
  if Token.isToken name.toList then some ⟨name⟩ else none

def get : Method := ⟨"GET"⟩
def post : Method := ⟨"POST"⟩
def put : Method := ⟨"PUT"⟩
def delete : Method := ⟨"DELETE"⟩

/-- Only state-changing requests send their body again on a retry. -/
def replaysBody (m : Method) : Bool :=
  m == post || m == put

end Method

end Replicast
