/-! # Spans of a text

A span is a stretch of a text between two positions. Cutting a text at separators leaves the
gaps between them; empty spans are no tokens.
-/

namespace CommandGrammar.Text

/-- The stretch from `start` up to and without `stop`. -/
structure Span where
  start : Nat
  stop : Nat
deriving DecidableEq, Repr

namespace Span

/-- Whether the span holds no character. -/
def isEmpty (span : Span) : Bool := decide (span.stop ≤ span.start)

/-- The characters of a span. -/
def slice (text : List Char) (span : Span) : List Char :=
  (text.drop span.start).take (span.stop - span.start)

/-- The stretches before, between and behind the given spans of a text, from `start` to `stop`.
The spans are in order and do not overlap. -/
def gaps (start stop : Nat) : List Span → List Span
  | [] => [⟨start, stop⟩]
  | span :: rest => ⟨start, span.start⟩ :: gaps span.stop stop rest

/-- The texts of the spans that hold a character, in order. -/
def texts (text : List Char) (spans : List Span) : List String :=
  (spans.filter (!·.isEmpty)).map fun span => String.ofList (span.slice text)

end Span

/-- The leftmost occurrences of a delimiter that do not overlap, found by one scan: `position` is
where the scanned text begins, and `skip` counts the characters that the last occurrence still
covers. -/
def occurrences (delimiter : List Char) : Nat → Nat → List Char → List Span
  | _, _, [] => []
  | position, skip + 1, _ :: rest => occurrences delimiter (position + 1) skip rest
  | position, 0, c :: rest =>
    if delimiter.isPrefixOf (c :: rest) then
      ⟨position, position + delimiter.length⟩ ::
        occurrences delimiter (position + 1) (delimiter.length - 1) rest
    else occurrences delimiter (position + 1) 0 rest

end CommandGrammar.Text
