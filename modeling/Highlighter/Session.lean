import Highlighter.Extraction
import Highlighter.Layer
import Highlighter.Registry
import Highlighter.Snippet

/-!
# Sessions

A session keeps the highlights of one changing text on one renderer. A pass takes a snapshot of the
text, normalizes it, waits for the profile, finds the spans and applies them. Passes are numbered by
generations. A pass that finds a newer generation when its profile arrives is discarded, so that a
slow profile never overwrites a newer result. If the renderer fails, the last result is applied
again.

The session itself never waits: `begin` takes a pass up to the point where it needs its profile, and
`complete` takes it from there. Whoever runs the session asks the registry in between, and rings
when the time of a notified text has come.

Main definitions: `Stage`, `Session`, `Pass`, `Session.notify`, `Session.ring`, `Session.begin`,
`Session.complete`, `Session.setProfile`, `Session.close`.
-/

namespace Highlighter

/-- Where the most recent pass is. -/
inductive Stage where
  | idle
  | normalizing
  | resolving
  | extracting
  | applying
  | cancelled
  deriving DecidableEq, Repr

/-- The name of a stage. -/
def Stage.name : Stage → String
  | .idle => "IDLE"
  | .normalizing => "NORMALIZING"
  | .resolving => "RESOLVING_PROFILE"
  | .extracting => "EXTRACTING"
  | .applying => "APPLYING"
  | .cancelled => "CANCELLED"

/-- A pass that waits for its profile: its generation and its text. -/
structure Pass where
  generation : Nat
  text : String
  deriving DecidableEq, Repr

/-- The state of a session on a renderer. -/
structure Session (σ : Type) where
  settings : Settings := {}
  layering : Layering σ
  /-- What the profile is asked for by. -/
  identifier : Identifier := .nothing
  /-- The text of the last pass that has begun. -/
  text : String := ""
  stage : Stage := .idle
  generation : Nat := 0
  appliedGeneration : Nat := 0
  /-- The text of the last result, unless a pass has to be made even for the same text. -/
  appliedText : Option String := none
  /-- The result that is on the renderer. -/
  lastResult : Option Highlights := none
  /-- The text of a notification that has not been rung for yet. -/
  pending : Option String := none
  closed : Bool := false

namespace Session

variable {σ : Type}

/-- Takes note of a changed text; an earlier note is replaced. -/
def notify (session : Session σ) (text : String) : Session σ :=
  if session.closed then session else { session with pending := some text }

/-- The text that was noted, for which a pass is now to begin. -/
def ring (session : Session σ) : Session σ × Option String :=
  ({ session with pending := none }, session.pending)

/-- The text that a pass is made for. -/
def snapshot (session : Session σ) (text : String) : String :=
  if session.settings.normalizes then Snippet.normalize text else text

/-- Begins a pass. There is none if the session is closed or the text is the one that was applied;
in the latter case a pass for another text that is under way becomes outdated. -/
def begin (session : Session σ) (text : String) : Session σ × Option Pass :=
  if session.closed then (session, none)
  else
    let text := session.snapshot text
    if session.appliedText = some text then
      let generation :=
        if session.appliedGeneration < session.generation then session.generation + 1
        else session.generation
      ({ session with text, generation, stage := .idle }, none)
    else
      let generation := session.generation + 1
      ({ session with text, generation, stage := .resolving }, some { generation, text })

variable [Renderer σ]

/-- Applies the last result again, if there is one. -/
def restore (session : Session σ) : Session σ × Run Unit :=
  match session.lastResult with
  | none => (session, pure ())
  | some result =>
    let (layering, applied) := session.layering.apply result
    let restored := do
      match ← applied.attempt with
      | .ok () => return ()
      | .error fault => .note (.restoreFailed result.generation fault)
    ({ session with layering }, restored)

/-- Applies the result of a pass. -/
def applyResult (session : Session σ) (result : Highlights) :
    Session σ × Run (Option Highlights) :=
  let (layering, applied) := session.layering.apply result
  let session := { session with layering }
  match applied.outcome with
  | .ok () =>
    ({ session with
      appliedText := some result.source
      appliedGeneration := result.generation
      lastResult := some result
      stage := .idle }, do
        applied
        return some result)
  | .error fault =>
    let (session, restored) := session.restore
    ({ session with stage := .idle }, do
      let _ ← applied.attempt
      .note (.applyFailed result.generation fault)
      restored
      return none)

/-- Goes on with a pass whose profile has arrived. -/
def complete [PatternReader] (session : Session σ) (pass : Pass) (profile : Profile) :
    Session σ × Run (Option Highlights) :=
  if pass.generation ≠ session.generation then
    ({ session with stage := .cancelled }, do
      .note (.discarded pass.generation session.generation)
      return none)
  else
    let session := { session with stage := .extracting }
    let extracted := extractAll profile pass.text pass.generation
    match extracted.outcome with
    | .error _ => (session, do
      let _ ← extracted
      return none)
    | .ok result =>
      if pass.generation ≤ session.appliedGeneration then
        ({ session with stage := .cancelled }, do
          let _ ← extracted
          return none)
      else
        let (session, applied) := { session with stage := .applying }.applyResult result
        (session, do
          let _ ← extracted
          applied)

/-- Asks for the profile by another identifier from now on; the next pass is made even for the same
text. -/
def setProfile (session : Session σ) (identifier : Identifier) : Session σ :=
  { session with identifier, appliedText := none }

/-- Ends the session: everything is removed from the renderer, and every pass under way becomes
outdated. -/
def close (session : Session σ) : Session σ × Run Unit :=
  let (layering, cleared) := session.layering.clear
  ({ session with
    layering
    closed := true
    pending := none
    generation := session.generation + 1
    appliedText := none
    lastResult := none
    stage := .idle }, do
      match cleared with
      | .ok () => return ()
      | .error fault => .note (.clearFailed fault))

/-- A session, as it is shown. -/
def shown (session : Session σ) : String :=
  "Tokenizer(profile=" ++ session.identifier.shown ++ ", generation=" ++
    toString session.generation ++ ", state=" ++ session.stage.name ++ ")"

end Session

end Highlighter
