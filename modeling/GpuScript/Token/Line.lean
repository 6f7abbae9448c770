import GpuScript.Token.Cursor

/-!
# Logical lines

The tokens of a text fall into logical lines at its line ends. A continuation joins physical lines
into one logical line, and a line without tokens is no logical line: every logical line has a first
token, whose line number is that of the whole.
-/

namespace GpuScript

open Text

/-- The tokens of a logical line. -/
structure TokenLine where
  /-- The first token. -/
  first : Token
  /-- The tokens after the first one. -/
  rest : List Token
  deriving DecidableEq

namespace TokenLine

/-- The number of the line on which a logical line starts. -/
def line (tokenLine : TokenLine) : Nat :=
  tokenLine.first.line

/-- All tokens of a logical line. -/
def tokens (tokenLine : TokenLine) : List Token :=
  tokenLine.first :: tokenLine.rest

/-- The logical line of a list of tokens; none without tokens. -/
def ofList? : List Token → Option TokenLine
  | [] => none
  | first :: rest => some ⟨first, rest⟩

/-- The logical lines of a list of tokens. -/
def ofTokens (tokens : List Token) : List TokenLine :=
  (pieces (fun token => token.kind.isEnd) tokens).filterMap ofList?

/-- The logical lines of a text whose first line has the given number. -/
def ofText (text : String) (firstLine : Nat) : List TokenLine :=
  ofTokens (Cursor.ofText text firstLine).tokens

end TokenLine

/-- Something with the line it is about. -/
structure Located (α : Type) where
  /-- The line. -/
  line : Nat
  /-- What there is to say about it. -/
  cause : α
  deriving DecidableEq

end GpuScript
