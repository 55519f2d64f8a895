/-! Lines of a text: one newline character for every way of ending a line, and the
line and column of a position. -/
namespace ApiConformance.Text

/-- Writes each carriage return, and each carriage return with its line feed, as one line feed. -/
def unifyNewlines : List Char → List Char
  | [] => []
  | '\r' :: '\n' :: rest => '\n' :: unifyNewlines rest
  | c :: rest => (if c = '\r' then '\n' else c) :: unifyNewlines rest

structure Position where
  line : Nat
  column : Nat
  offset : Nat
  deriving DecidableEq, Repr

/-- Lines and columns count from one, offsets from zero; only a line feed ends a line. -/
def Position.ofOffset (text : List Char) (offset : Nat) : Position :=
  let before := text.take offset
  { line := before.count '\n' + 1
    column := (before.reverse.takeWhile (· != '\n')).length + 1
    offset := offset }

end ApiConformance.Text
