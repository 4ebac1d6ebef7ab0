import Highlighter.Span

/-!
# Layers

Spans of different types may overlap; where they do, the type that is declared later wins. This is
achieved in two ways that agree. `Layering.apply` registers the types with a renderer in the order
of their declaration, and the renderer shows the one that was registered last. `winners` computes
the winning type of every character, and `visibleSpans` the runs of equal winners.

A renderer is anything on which types can be registered and cleared; a call may fail. `Canvas` is a
renderer in memory, and `FaultyCanvas` is one that fails as planned.

Main definitions: `winners`, `collapse`, `visibleSpans`, `Renderer`, `Canvas`, `FaultyCanvas`,
`Layering`.
-/

namespace Highlighter

/-- A run of characters on which one type is visible. -/
structure VisibleSpan where
  start : Nat
  stop : Nat
  type : String
  deriving DecidableEq, Repr

/-- Lets a type win on a span: puts it in the place of a slice of the winners, which is cut off at
their end. -/
def paintSpan (type : String) (winners : List (Option String)) (span : Span) :
    List (Option String) :=
  let stop := min span.stop winners.length
  winners.take span.start ++ List.replicate (stop - span.start) (some type) ++
    winners.drop (max span.start stop)

/-- After a span was painted, each place has its type where the span covers, and elsewhere what it
had. -/
theorem getElem?_paintSpan (type : String) (winners : List (Option String)) (span : Span)
    (offset : Nat) :
    (paintSpan type winners span)[offset]? =
      winners[offset]?.map fun winner => if span.covers offset then some type else winner := by
  have := span.start_lt_stop
  simp only [paintSpan, Span.covers, List.getElem?_append, List.getElem?_replicate,
    List.getElem?_take, List.getElem?_drop, List.length_append, List.length_take,
    List.length_replicate]
  -- an offset stands before the slice, in it, after it, or after the end
  grind

@[simp]
theorem length_paintSpan (type : String) (winners : List (Option String)) (span : Span) :
    (paintSpan type winners span).length = winners.length := by
  have := span.start_lt_stop
  simp only [paintSpan, List.length_append, List.length_take, List.length_replicate,
    List.length_drop]
  omega

/-- Lets a type win wherever one of its spans covers. -/
def paintType (winners : List (Option String)) (entry : String × List Span) :
    List (Option String) :=
  entry.2.foldl (paintSpan entry.1) winners

/-- The winning type of each of the first `length` characters, given the types from the lowest to
the highest. -/
def paint (length : Nat) (layers : List (String × List Span)) : List (Option String) :=
  layers.foldl paintType (List.replicate length none)

@[simp]
theorem length_paintType (winners : List (Option String)) (entry : String × List Span) :
    (paintType winners entry).length = winners.length := by
  obtain ⟨type, spans⟩ := entry
  induction spans generalizing winners with
  | nil => rfl
  | cons span spans ih =>
    simp only [paintType, List.foldl_cons] at ih ⊢
    rw [ih, length_paintSpan]

/-- Every character has its place among the winners. -/
theorem length_paint (length : Nat) (layers : List (String × List Span)) :
    (paint length layers).length = length := by
  suffices h : ∀ winners : List (Option String),
      (layers.foldl paintType winners).length = winners.length by
    simp [paint, h]
  induction layers with
  | nil => intro winners; rfl
  | cons layer layers ih => intro winners; simp [ih]

/-- The winning type of each character. -/
def winners (highlights : Highlights) : List (Option String) :=
  paint highlights.source.length highlights.spans

/-- The run that ends at an offset, if a type is visible on it. -/
def closeRun (start stop : Nat) : Option String → List VisibleSpan
  | some type => [⟨start, stop, type⟩]
  | none => []

/-- The runs of equal winners; a run of `current` has begun at `start`, and the next winner is that
of `offset`. -/
def collapseFrom (start : Nat) (current : Option String) (offset : Nat) :
    List (Option String) → List VisibleSpan
  | [] => closeRun start offset current
  | winner :: rest =>
    if winner = current then collapseFrom start current (offset + 1) rest
    else closeRun start offset current ++ collapseFrom offset winner (offset + 1) rest

/-- The runs of equal winners on which a type is visible. -/
def collapse (winners : List (Option String)) : List VisibleSpan :=
  collapseFrom 0 none 0 winners

/-- What is visible of the types. -/
def visibleSpans (highlights : Highlights) : List VisibleSpan :=
  collapse (winners highlights)

/-- Something on which types can be registered and from which all can be removed. A call gives the
new state and, if it failed, the fault. -/
class Renderer (σ : Type) where
  register : σ → String → List Span → σ × Except Fault Unit
  clearAll : σ → σ × Except Fault Unit

/-- A renderer in memory: the registered types, the lowest first, and the numbers of calls. -/
structure Canvas where
  layers : List (String × List Span) := []
  registerCalls : Nat := 0
  clearCalls : Nat := 0
  deriving DecidableEq, Repr

namespace Canvas

/-- Puts a type on top; if it was registered before, it is moved. -/
def register (canvas : Canvas) (type : String) (spans : List Span) : Canvas :=
  { canvas with
    layers := canvas.layers.filter (·.1 != type) ++ [(type, spans)]
    registerCalls := canvas.registerCalls + 1 }

/-- Removes all types. -/
def clearAll (canvas : Canvas) : Canvas :=
  { canvas with layers := [], clearCalls := canvas.clearCalls + 1 }

/-- The registered types, the lowest first. -/
def order (canvas : Canvas) : List String :=
  canvas.layers.map (·.1)

/-- The spans of a type. -/
def spansOf (canvas : Canvas) (type : String) : List Span :=
  (canvas.layers.lookup type).getD []

/-- The highest type with a span that covers an offset. -/
def winnerAt (canvas : Canvas) (offset : Int) : Option String :=
  (canvas.layers.reverse.find? fun layer =>
    layer.2.any fun span => span.start ≤ offset && offset < span.stop).map (·.1)

/-- What is visible over a text. -/
def visibleSpans (canvas : Canvas) (source : String) : List VisibleSpan :=
  collapse (paint source.length canvas.layers)

end Canvas

instance : Renderer Canvas where
  register canvas type spans := (canvas.register type spans, .ok ())
  clearAll canvas := (canvas.clearAll, .ok ())

/-- Which calls of a renderer are going to fail. After `skip` calls that succeed, the next
`register` calls to register fail; the next `clear` calls to clear fail. -/
structure Outage where
  register : Nat := 0
  skip : Nat := 0
  clear : Nat := 0
  deriving DecidableEq, Repr

/-- A renderer in memory that fails as planned. A call that fails changes nothing but the plan. -/
structure FaultyCanvas where
  canvas : Canvas := {}
  outage : Outage := {}
  deriving DecidableEq, Repr

instance : Renderer FaultyCanvas where
  register faulty type spans :=
    let registered := { faulty with canvas := faulty.canvas.register type spans }
    match faulty.outage.register, faulty.outage.skip with
    | 0, _ => (registered, .ok ())
    | _ + 1, skip + 1 => ({ registered with outage := { faulty.outage with skip } }, .ok ())
    | register + 1, 0 =>
      ({ faulty with outage := { faulty.outage with register } },
        .error (.raised .runtime "renderer unavailable"))
  clearAll faulty :=
    match faulty.outage.clear with
    | 0 => ({ faulty with canvas := faulty.canvas.clearAll }, .ok ())
    | clear + 1 =>
      ({ faulty with outage := { faulty.outage with clear } },
        .error (.raised .runtime "cannot clear"))

/-- A renderer with the types that the last application registered. -/
structure Layering (σ : Type) where
  renderer : σ
  registered : List String := []

namespace Layering

variable {σ : Type} [Renderer σ]

/-- Removes everything from the renderer. -/
def clear (layering : Layering σ) : Layering σ × Except Fault Unit :=
  match Renderer.clearAll layering.renderer with
  | (renderer, .ok ()) => ({ renderer, registered := [] }, .ok ())
  | (renderer, .error fault) => ({ layering with renderer }, .error fault)

/-- Registers types one after the other until a call fails. -/
def registerAll (renderer : σ) : List (String × List Span) → σ × Except Fault Unit
  | [] => (renderer, .ok ())
  | (type, spans) :: rest =>
    match Renderer.register renderer type spans with
    | (renderer, .ok ()) => registerAll renderer rest
    | (renderer, .error fault) => (renderer, .error fault)

/-- Replaces everything on the renderer by the types that have a span, in the order of
declaration. -/
def apply (layering : Layering σ) (highlights : Highlights) : Layering σ × Run Unit :=
  match layering.clear with
  | (layering, .error fault) => (layering, .fail fault)
  | (layering, .ok ()) =>
    match registerAll layering.renderer highlights.inhabited with
    | (renderer, .error fault) => ({ layering with renderer }, .fail fault)
    | (renderer, .ok ()) =>
      let registered := highlights.inhabited.map (·.1)
      ({ renderer, registered }, .note (.registered registered))

end Layering

end Highlighter
