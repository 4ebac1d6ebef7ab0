import Highlighter.Proofs.Host.Steps

/-!
# Runs of a registry

What holds of the traffic of a registry at every time, and what a run lets grow. The number of
tasks grows, and a task keeps its place, so that places tell what was started before what. A name
that is cached or in flight is known. It stays known until its profile is dropped, and a load begins
only for a name that is not known. Hence between two loads of a name its profile was dropped.

## Main definitions

* `Host.Traffic.Kept` — a property of the traffic that every step keeps
* `Host.Traffic.Known` — a name is cached or in flight
* `Host.Traffic.Grows` — tasks are added, and loads begin for names that are not known
* `Host.Dropped` — between two moments the profile of a name was dropped

## Main results

* `Host.Reaches.sound` — the traffic of a registry is sound at every time
* `Host.Traffic.Kept.run` — what every step keeps, every run keeps
* `Host.reaches_drain` — the host's own schedule is one of those that steps allow
* `Host.Reaches.dropped` — between two loads of a name its profile was dropped
-/

namespace Highlighter

open Highlighter.Host

/-- Profiles are dropped or kept as they are. -/
theorem Registry.lookup_invalidate (registry : Registry) (identifier : Identifier) (name : String) :
    (registry.invalidate identifier).profiles.lookup name = none ∨
      (registry.invalidate identifier).profiles.lookup name = registry.profiles.lookup name := by
  cases identifier with
  | nothing => exact .inl rfl
  | name other =>
    by_cases eq : name = other
    · exact .inl (by simp [invalidate, Traffic.lookup_filter, eq])
    · exact .inr (by simp [invalidate, Traffic.lookup_filter, eq])
  | literal | ready | other => exact .inr rfl

namespace Host

open Relation Traffic

variable {start host next : Host}

/-! ## Reachable traffic is sound -/

theorem Traffic.Sound.moves {d d' : Traffic} (sound : d.Sound) (moves : ReflTransGen Move d d') :
    d'.Sound := by
  induction moves with
  | refl => exact sound
  | tail _ move ih => exact ih.move move

/-- A registry that has not been asked for anything has no traffic. -/
theorem sound_opened (settings : Settings) (loader : Loader) (session : Session FaultyCanvas) :
    (opened settings loader session).traffic.Sound := by
  have nowhere : ∀ {t : Nat} {P : Task → Prop}, ¬ At [] t P := by simp [At]
  change Sound ⟨settings, [], [], [], false, [], [], []⟩
  constructor
  · simp
  · exact ⟨List.nodup_nil, fun {t} => by simp [runs, Scheduled, nowhere]⟩
  · simp
  · simp
  · simp
  · exact ⟨fun awaits => absurd awaits nowhere, by simp, fun waits => absurd waits nowhere⟩
  · exact ⟨fun loading => absurd loading nowhere, by simp, fun loading => absurd loading nowhere,
      by simp⟩
  · simp
  · rfl
  · rfl

section Steps

variable [PatternReader]

theorem traffic_drops (identifier : Identifier) :
    (host.obey (.invalidate identifier)).1.traffic =
      { host.traffic with profiles := (host.registry.invalidate identifier).profiles } := by
  cases identifier <;> rfl

theorem Traffic.Sound.drops (sound : host.traffic.Sound) (identifier : Identifier) :
    (host.obey (.invalidate identifier)).1.traffic.Sound := by
  rw [traffic_drops]
  have flights := sound.flights
  refine { sound with relays := { sound.relays with }, flights := { flights with uncached := ?_ } }
  intro name flying
  rcases host.registry.lookup_invalidate identifier name with dropped | kept
  · exact dropped
  · exact kept.trans (flights.uncached flying)

theorem Step.sound (sound : host.traffic.Sound) (step : Step host next) : next.traffic.Sound := by
  cases step.changes sound with
  | moves moves => exact sound.moves moves
  | lands lands => exact sound.lands lands
  | drops identifier eq => exact eq ▸ sound.drops identifier

theorem Reaches.sound (sound : start.traffic.Sound) (run : Reaches start host) :
    host.traffic.Sound := by
  induction run with
  | refl => exact sound
  | tail _ step ih => exact step.sound ih

/-- The host's own schedule is one of those that steps allow. -/
theorem reaches_drain (sound : host.traffic.Sound) : Reaches host host.drain := by
  suffices ∀ (limit : Nat) (host : Host), host.traffic.Sound → Reaches host (turns limit host) from
    this turnLimit host sound
  intro limit
  induction limit with
  | zero => exact fun _ _ => .refl
  | succ limit ih =>
    intro host sound
    rw [turns]
    split
    · exact .refl
    · have turn := reaches_turn sound.timeless
      exact turn.trans (ih _ (turn.sound sound))

end Steps

/-! ## What every run keeps -/

namespace Traffic

/-- A property of the traffic that every step keeps. -/
structure Kept (P : Traffic → Prop) : Prop where
  move : ∀ {d d' : Traffic}, Sound d → Move d d' → P d → P d'
  lands : ∀ {d d' : Traffic} {t : Nat} {name : String} {outcome : Outcome}, Sound d →
    Lands d t name outcome d' → P d → P d'
  drops : ∀ {d : Traffic} (profiles : List (String × Resolved)), P d → P { d with profiles }

variable {P : Traffic → Prop}

theorem Kept.moves (kept : Kept P) {d d' : Traffic} (sound : Sound d)
    (moves : ReflTransGen Move d d') (holds : P d) : P d' := by
  induction moves with
  | refl => exact holds
  | tail moves move ih => exact kept.move (sound.moves moves) move ih

theorem kept_settings (settings : Settings) : Kept fun d => d.settings = settings where
  move := fun _ move eq => move.settings_eq.trans eq
  lands := fun _ lands eq => lands.settings_eq.trans eq
  drops := fun _ => id

theorem kept_ended (t : Nat) (outcome : Outcome) : Kept fun d => Ended d.tasks t outcome where
  move := fun sound move ended => sound.ended_mono move ended
  lands := fun sound lands ended => (sound.ended_iff_of_lands lands t outcome).mpr (.inl ended)
  drops := fun _ => id

theorem kept_condemned (t : Nat) : Kept fun d => Condemned d.tasks t where
  move := fun _ move condemned => move.condemned_mono condemned
  lands := fun _ lands condemned => (lands.condemned_iff t).mpr condemned
  drops := fun _ => id

theorem kept_awake (w : Nat) : Kept fun d => Receives d.tasks w ∧ ¬ Waiting d.tasks w where
  move := fun _ move ⟨receives, away⟩ => ⟨move.receives receives, move.not_waiting receives away⟩
  lands := fun _ lands ⟨receives, away⟩ =>
    ⟨(lands.receives_iff w).mpr receives, lands.not_waiting away⟩
  drops := fun _ => id

section Steps

variable [PatternReader]

theorem Kept.step (kept : Kept P) (sound : host.traffic.Sound) (step : Step host next)
    (holds : P host.traffic) : P next.traffic := by
  cases step.changes sound with
  | moves moves => exact kept.moves sound moves holds
  | lands lands => exact kept.lands sound lands holds
  | drops identifier eq =>
    rw [eq, traffic_drops]
    exact kept.drops _ holds

theorem Kept.run (kept : Kept P) (sound : start.traffic.Sound) (run : Reaches start host)
    (holds : P start.traffic) : P host.traffic := by
  induction run with
  | refl => exact holds
  | tail run step ih => exact kept.step (Reaches.sound sound run) step ih

end Steps

end Traffic

/-! ## What a run lets grow -/

namespace Traffic

/-- A name is cached or in flight. -/
def Known (d : Traffic) (name : String) : Prop :=
  d.profiles.lookup name ≠ none ∨ d.inflight.lookup name ≠ none

/-- Tasks are added and names become known. A load begins only for a name that is not known. -/
structure Grows (d d' : Traffic) : Prop where
  length : d.tasks.length ≤ d'.tasks.length
  known : ∀ {name : String}, d.Known name → d'.Known name
  begun : ∀ {k : Nat} {name : String}, Loads d'.tasks k name → Loads d.tasks k name ∨
    d.tasks.length ≤ k ∧ ¬ d.Known name ∧ d'.Known name
  unique : ∀ {j k : Nat} {name : String}, Loads d'.tasks j name → Loads d'.tasks k name →
    d.tasks.length ≤ j → d.tasks.length ≤ k → j = k

namespace Grows

variable {d d' d'' : Traffic}

theorem refl : Grows d d where
  length := Nat.le_refl _
  known := id
  begun := .inl
  unique := fun loads _ le => absurd loads.lt_length (Nat.not_lt.mpr le)

theorem trans (first : Grows d d') (second : Grows d' d'') : Grows d d'' where
  length := Nat.le_trans first.length second.length
  known := fun known => second.known (first.known known)
  begun := by
    intro k name loads
    rcases second.begun loads with middle | ⟨le, unknown, known⟩
    · rcases first.begun middle with old | ⟨le, unknown, known⟩
      · exact .inl old
      · exact .inr ⟨le, unknown, second.known known⟩
    · exact .inr ⟨Nat.le_trans first.length le, fun old => unknown (first.known old), known⟩
  unique := by
    -- A load that has begun meanwhile makes its name known, so that no other begins after it.
    have knownBetween : ∀ {k name}, Loads d'.tasks k name → d.tasks.length ≤ k → d'.Known name := by
      intro k name loads le
      rcases first.begun loads with old | ⟨-, -, known⟩
      · exact absurd old.lt_length (Nat.not_lt.mpr le)
      · exact known
    intro j k name loadsJ loadsK leJ leK
    rcases second.begun loadsJ with middleJ | ⟨laterJ, unknown, -⟩
    · rcases second.begun loadsK with middleK | ⟨-, unknown, -⟩
      · exact first.unique middleJ middleK leJ leK
      · exact absurd (knownBetween middleJ leJ) unknown
    · rcases second.begun loadsK with middleK | ⟨laterK, -, -⟩
      · exact absurd (knownBetween middleK leK) unknown
      · exact second.unique loadsJ loadsK laterJ laterK

end Grows

variable {d d' : Traffic}

theorem Grows.of_loads_iff (length : d.tasks.length ≤ d'.tasks.length)
    (known : ∀ {name : String}, d.Known name → d'.Known name)
    (same : ∀ k name, Loads d'.tasks k name ↔ Loads d.tasks k name) : Grows d d' where
  length := length
  known := known
  begun := fun loads => .inl ((same _ _).mp loads)
  unique := fun loads _ le => absurd ((same _ _).mp loads).lt_length (Nat.not_lt.mpr le)

theorem Move.grows (move : Move d d') : Grows d d' := by
  have length : d.tasks.length ≤ d'.tasks.length := by
    cases move <;> simp
  have profiles := move.profiles_eq
  rcases move.loads_cases with ⟨inflight, same, -⟩ | ⟨name, uncached, idle, begun, loads, -⟩
  · exact .of_loads_iff length (by simp [Known, profiles, inflight]) same
  · have unknown : ¬ d.Known name := by simp [Known, uncached, idle]
    have known : d'.Known name := .inr (by simp [begun, List.lookup_append])
    refine ⟨length, ?_, ?_, ?_⟩
    · rintro other (cached | flying)
      · exact .inl (profiles ▸ cached)
      · refine .inr ?_
        rw [begun, List.lookup_append]
        simp [flying]
    · intro k other loadsK
      rcases (loads k other).mp loadsK with old | ⟨rfl, rfl⟩
      · exact .inl old
      · exact .inr ⟨Nat.le_refl _, unknown, known⟩
    · intro j k other loadsJ loadsK leJ leK
      have new : ∀ {k}, Loads d'.tasks k other → d.tasks.length ≤ k → k = d.tasks.length := by
        intro k loadsK le
        rcases (loads k other).mp loadsK with old | ⟨eq, -⟩
        · exact absurd old.lt_length (Nat.not_lt.mpr le)
        · exact eq
      exact (new loadsJ leJ).trans (new loadsK leK).symm

theorem Registers.known {name : String} {outcome : Outcome} {profiles : List (String × Resolved)}
    {inflight : List (String × Flight)} (registers : Registers d name outcome profiles inflight) :
    profiles.lookup name ≠ none ∨ inflight.lookup name ≠ none := by
  cases registers with
  | loaded => exact .inl (by simp [List.lookup_append])
  | stranded => exact .inr (by simp [List.lookup_append])

theorem Lands.grows {t : Nat} {name : String} {outcome : Outcome}
    (lands : Lands d t name outcome d') : Grows d d' := by
  have loads := lands.loads_iff
  cases lands with
  | intro _ _ _ registers =>
    refine .of_loads_iff (by simp) ?_ loads
    intro other known
    by_cases eq : other = name
    · exact eq ▸ registers.known
    · rwa [Known, registers.profiles_lookup eq, registers.inflight_lookup eq]

theorem grows_of_moves (moves : ReflTransGen Move d d') : Grows d d' := by
  induction moves with
  | refl => exact .refl
  | tail _ move ih => exact ih.trans move.grows

end Traffic

theorem Traffic.kept_length (length : Nat) : Kept fun d => length ≤ d.tasks.length where
  move := fun _ move le => Nat.le_trans le move.grows.length
  lands := fun _ lands le => Nat.le_trans le lands.grows.length
  drops := fun _ => id

/-! ## Loads of the same name -/

variable [PatternReader]

/-- After the task `j` was started, and before there were more than `before` tasks, the profile that
was kept for a name was dropped. -/
def Dropped (start host : Host) (j : Nat) (name : String) (before : Nat) : Prop :=
  ∃ earlier identifier, Reaches start earlier ∧
    Reaches (earlier.obey (.invalidate identifier)).1 host ∧
    j < earlier.tasks.length ∧ earlier.tasks.length ≤ before ∧
    earlier.registry.profiles.lookup name ≠ none ∧
    (earlier.obey (.invalidate identifier)).1.registry.profiles.lookup name = none

theorem Dropped.tail {j limit : Nat} {name : String} (dropped : Dropped start host j name limit)
    (step : Step host next) {limit' : Nat} (le : limit ≤ limit') :
    Dropped start next j name limit' := by
  obtain ⟨earlier, identifier, run, rest, lt, before, cached, uncached⟩ := dropped
  exact ⟨earlier, identifier, run, rest.tail step, lt, Nat.le_trans before le, cached, uncached⟩

/-- The name of a load stays known until its profile is dropped. -/
theorem Reaches.known_or_dropped (sound : start.traffic.Sound) (empty : start.tasks = [])
    (run : Reaches start host) {j : Nat} {name : String} (loads : Loads host.tasks j name) :
    host.traffic.Known name ∨ Dropped start host j name host.tasks.length := by
  induction run with
  | refl => exact absurd loads.lt_length (by simp [empty])
  | @tail host next run step ih =>
    have sound' := Reaches.sound sound run
    have grown := (kept_length _).step sound' step (Nat.le_refl host.tasks.length)
    have grows : Grows host.traffic next.traffic →
        next.traffic.Known name ∨ Dropped start next j name next.tasks.length := by
      intro grows
      rcases grows.begun loads with old | ⟨-, -, known⟩
      · exact (ih old).imp grows.known fun dropped => dropped.tail step grown
      · exact .inl known
    cases step.changes sound' with
    | moves moves => exact grows (grows_of_moves moves)
    | lands lands => exact grows lands.grows
    | drops identifier eq =>
      subst eq
      rcases ih loads with (cached | flying) | dropped
      · -- This may be the command that drops the profile.
        by_cases lost : (host.registry.invalidate identifier).profiles.lookup name = none
        · exact .inr ⟨host, identifier, run, .refl, loads.lt_length, Nat.le_refl _, cached, lost⟩
        · exact .inl (.inl lost)
      · -- Loads in flight go on.
        refine .inl (.inr ?_)
        rwa [traffic_drops]
      · exact .inr (dropped.tail step grown)

/-- Between two loads of a name its profile was dropped. -/
theorem Reaches.dropped (sound : start.traffic.Sound) (empty : start.tasks = [])
    (run : Reaches start host) {j k : Nat} {name : String} (lt : j < k)
    (loadsJ : Loads host.tasks j name) (loadsK : Loads host.tasks k name) :
    Dropped start host j name k := by
  induction run with
  | refl => exact absurd loadsJ.lt_length (by simp [empty])
  | @tail host next run step ih =>
    have sound' := Reaches.sound sound run
    have grows : Grows host.traffic next.traffic → Dropped start next j name k := by
      intro grows
      rcases grows.begun loadsK with oldK | ⟨le, unknown, -⟩
      · -- Both loads have begun before.
        rcases grows.begun loadsJ with oldJ | ⟨le, -, -⟩
        · exact (ih oldJ oldK).tail step (Nat.le_refl k)
        · exact absurd (Nat.lt_of_le_of_lt le lt) (Nat.not_lt.mpr (Nat.le_of_lt oldK.lt_length))
      · -- The later load begins now, so that its name is not known.
        rcases grows.begun loadsJ with oldJ | ⟨le', -, -⟩
        · have dropped := (Reaches.known_or_dropped sound empty run oldJ).resolve_left unknown
          exact dropped.tail step le
        · exact absurd (grows.unique loadsJ loadsK le' le) (Nat.ne_of_lt lt)
    cases step.changes sound' with
    | moves moves => exact grows (grows_of_moves moves)
    | lands lands => exact grows lands.grows
    | drops identifier eq =>
      subst eq
      exact (ih loadsJ loadsK).tail step (Nat.le_refl k)

end Host
end Highlighter
