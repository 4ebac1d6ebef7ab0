import Highlighter.Notice

/-!
# Spans

A span is a non-empty half-open range of character offsets. Spans are ordered by where they start
and, at the same start, by where they stop.

Main definitions: `Span`, `Span.make?`, `Span.within?`, `Highlights`.
-/

namespace Highlighter

/-- A non-empty range of offsets. -/
@[ext]
structure Span where
  start : Nat
  stop : Nat
  start_lt_stop : start < stop
  deriving DecidableEq, Repr

namespace Span

/-- The span of two offsets, which must not be negative or empty. -/
def make? (start stop : Int) : Except Fault Span :=
  if h : 0 ≤ start ∧ start < stop then .ok ⟨start.toNat, stop.toNat, by omega⟩
  else .error (.emptyRange start stop)

/-- The span of two offsets in a text of the given length. -/
def within? (length : Nat) (start stop : Int) : Except Fault Span :=
  if h : 0 ≤ start ∧ start < stop ∧ stop ≤ length then .ok ⟨start.toNat, stop.toNat, by omega⟩
  else .error (.outOfText start stop length)

/-- The span of two offsets in a text of the given length; if there is none, a notice says so. -/
def orDrop (length : Nat) (start stop : Int) : Run (Option Span) :=
  match within? length start stop with
  | .ok span => pure (some span)
  | .error fault => do
    .note (.droppedRange fault)
    return none

/-- The number of characters of a span. -/
def length (span : Span) : Nat :=
  span.stop - span.start

/-- The characters of a text that a span covers. -/
def text (span : Span) (source : List Char) : List Char :=
  (source.drop span.start).take span.length

/-- Whether two spans share a character. -/
def overlaps (a b : Span) : Bool :=
  a.start < b.stop && b.start < a.stop

/-- Whether a span covers an offset. -/
def covers (span : Span) (offset : Nat) : Bool :=
  span.start ≤ offset && offset < span.stop

/-- The order of spans, not strict. -/
def le (a b : Span) : Bool :=
  a.start < b.start || (a.start == b.start && a.stop ≤ b.stop)

/-- The order of spans, strict. -/
def lt (a b : Span) : Bool :=
  a.start < b.start || (a.start == b.start && a.stop < b.stop)

/-- Spans in ascending order. -/
def sorted (spans : List Span) : List Span :=
  spans.mergeSort le

end Span

/-- The spans of each token type in a text. Types stand in the order of their declaration, which is
the order of layers: where spans overlap, the later type wins. -/
structure Highlights where
  source : String
  spans : List (String × List Span) := []
  generation : Nat := 0
  deriving DecidableEq, Repr

namespace Highlights

/-- The spans of a type. -/
def get (highlights : Highlights) (type : String) : List Span :=
  (highlights.spans.lookup type).getD []

/-- The names of the types. -/
def types (highlights : Highlights) : List String :=
  highlights.spans.map (·.1)

/-- The number of spans of all types. -/
def total (highlights : Highlights) : Nat :=
  (highlights.spans.flatMap (·.2)).length

/-- The types that have a span. -/
def inhabited (highlights : Highlights) : List (String × List Span) :=
  highlights.spans.filter fun entry => !entry.2.isEmpty

end Highlights

/-- Where names are distinct, an entry is found under its name. -/
theorem lookup_eq_some_of_mem {α : Type} {entries : List (String × α)} {name : String} {value : α}
    (distinct : (entries.map (·.1)).Nodup) (h : (name, value) ∈ entries) :
    entries.lookup name = some value := by
  induction entries with
  | nil => cases h
  | cons entry entries ih =>
    obtain ⟨first, found⟩ := entry
    obtain ⟨fresh, others⟩ := List.nodup_cons.1 distinct
    rcases List.mem_cons.1 h with heq | hmem
    · obtain ⟨rfl, rfl⟩ := Prod.mk.inj heq
      exact List.lookup_cons_self
    · have hne : (name == first) = false := by
        rw [beq_eq_false_iff_ne]
        rintro rfl
        exact fresh (List.mem_map.2 ⟨_, hmem, rfl⟩)
      rw [List.lookup_cons, hne]
      exact ih others hmem

theorem Highlights.get_eq_of_mem {highlights : Highlights} {type : String} {spans : List Span}
    (distinct : highlights.types.Nodup) (h : (type, spans) ∈ highlights.spans) :
    highlights.get type = spans := by
  rw [get, lookup_eq_some_of_mem distinct h, Option.getD_some]

end Highlighter
