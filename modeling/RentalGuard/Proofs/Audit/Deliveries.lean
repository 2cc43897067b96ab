import RentalGuard.Proofs.Scope.Replay
import RentalGuard.Scope.Moments

/-! # An audit that fails changes nothing but the log

Two runs of one program are compared whose audits fail at different events. Worlds in which the
context and the snapshots are the same are alike. Steps that begin in worlds that are alike end in
such worlds and with the same result, whatever the audits do; by induction over the program this
holds of each step inside. The events and the log are read off the one trace that both runs replay.
-/

namespace RentalGuard

variable {α : Type}

/-! ## Events but for their identifiers -/

def AuditEvent.withId (id : EventId) (event : AuditEvent) : AuditEvent := { event with id := id }

/-- The same events in the same order, but for their identifiers. -/
def SameButIds (events others : List AuditEvent) : Prop :=
  ∀ id : EventId, events.map (·.withId id) = others.map (·.withId id)

namespace Auditing

variable (a : Auditing)

/-- What is denied and when decides the events. The identifiers are the only other part of them
that the audit chooses. -/
theorem events_sameButIds (b : Auditing) (h : a.now = b.now) (number : Nat)
    (denials : List (Caller × Denial)) :
    SameButIds (a.events number denials) (b.events number denials) := by
  intro id
  unfold events
  rw [List.map_map, List.map_map, h]
  rfl

end Auditing

/-! ## Entries at the level of errors -/

def LogEntry.isError (entry : LogEntry) : Bool := entry.level = .error

/-- What a request leaves in the log. -/
def Happening.entry? : Happening → Option LogEntry
  | guarded _ => none
  | opened claims => some (Request.opened claims)
  | closed => some Request.closed

namespace Auditing

variable (a : Auditing)

/-- One entry for each of the events that could not be delivered. The first event has this
number. -/
def reports (number : Nat) (trail : List AuditEvent) : List LogEntry :=
  (trail.zipIdx number).filterMap fun (event, n) =>
    (a.failure n).map fun e => deliveryFailed e event.id

theorem reports_events (number : Nat) (denials : List (Caller × Denial)) :
    a.reports number (a.events number denials) = a.failures number denials.length := by
  induction denials generalizing number with
  | nil => rfl
  | cons first rest ih =>
    have hrest := ih (number + 1)
    unfold reports events failures at hrest ⊢
    simp only [List.zipIdx_cons, List.map_cons, List.length_cons, List.range'_succ,
      List.filterMap_cons, hrest]
    rfl

theorem isError_of_mem_failures {number count : Nat} {entry : LogEntry}
    (h : entry ∈ a.failures number count) : entry.isError := by
  obtain ⟨n, -, hn⟩ := List.mem_filterMap.mp h
  obtain ⟨e, -, rfl⟩ := Option.map_eq_some_iff.mp hn
  rfl

theorem filter_isError_failures (number count : Nat) :
    (a.failures number count).filter LogEntry.isError = a.failures number count :=
  List.filter_eq_self.mpr fun _ h => a.isError_of_mem_failures h

theorem filter_not_isError_failures (number count : Nat) :
    ((a.failures number count).filter fun entry => !entry.isError) = [] :=
  List.filter_eq_nil_iff.mpr fun _ h => by simp [a.isError_of_mem_failures h]

/-- The failures are the only errors in the log. -/
theorem filter_isError_entries (number : Nat) (happenings : List Happening) :
    (a.entries number happenings).filter LogEntry.isError =
      a.failures number (happenings.flatMap Happening.denials).length := by
  induction happenings generalizing number with
  | nil => rfl
  | cons h rest ih =>
    have hfirst : (a.entriesOf number h).filter LogEntry.isError =
        a.failures number h.denials.length := by
      cases h with
      | guarded c => simp [entriesOf, Happening.denials, a.filter_isError_failures]
      | opened | closed => rfl
    rw [entries, List.filter_append, hfirst, ih, List.flatMap_cons, List.length_append,
      a.failures_add]

/-- What else is in the log does not depend on the audit. -/
theorem filter_not_isError_entries (number : Nat) (happenings : List Happening) :
    ((a.entries number happenings).filter fun entry => !entry.isError) =
      happenings.filterMap Happening.entry? := by
  induction happenings generalizing number with
  | nil => rfl
  | cons h rest ih =>
    rw [entries, List.filter_append, ih, List.filterMap_cons]
    cases h with
    | guarded c => simp only [entriesOf, a.filter_not_isError_failures]; rfl
    | opened | closed => rfl

end Auditing

/-! ## Worlds that are alike -/

/-- The worlds differ in nothing but what others have been told. -/
structure World.Alike (w v : World) : Prop where
  ambient : w.ambient = v.ambient
  snapshots : w.snapshots = v.snapshots

theorem World.Alike.refl (w : World) : w.Alike w := ⟨rfl, rfl⟩

theorem World.Alike.withSlot {w v : World} (h : w.Alike v) (slot : Option TenantContext) :
    (w.withSlot slot).Alike (v.withSlot slot) :=
  ⟨rfl, h.snapshots⟩

theorem World.Alike.log {w v : World} (h : w.Alike v) (first second : LogEntry) :
    (w.log first).Alike (v.log second) :=
  ⟨h.ambient, h.snapshots⟩

/-- The runs end in worlds that are alike, and with the same result. -/
structure AlikeRuns (ran other : World × α) : Prop where
  world : ran.1.Alike other.1
  result : ran.2 = other.2

theorem Traced.replay_alike (t : Traced α) (a b : Auditing) (w v : World) :
    AlikeRuns (t.replay a w) (t.replay b v) :=
  ⟨⟨rfl, rfl⟩, rfl⟩

section

variable (a b : Auditing) {w v : World}

theorem Step.run_alike (step : Step) (h : w.Alike v) : AlikeRuns (step.run a w) (step.run b v) := by
  rw [step.run_eq_replay, step.run_eq_replay, h.ambient, h.snapshots]
  exact Traced.replay_alike ..

theorem runSteps_alike (steps : List Step) (h : w.Alike v) :
    AlikeRuns (runSteps a steps w) (runSteps b steps v) := by
  rw [runSteps_eq_replay, runSteps_eq_replay, h.ambient, h.snapshots]
  exact Traced.replay_alike ..

theorem followedBy_congr {next other : World → List Moment}
    {ran : World × Except Panic α} {run : World × Except Panic α} (h : AlikeRuns ran run)
    (hnext : ∀ {w v : World}, w.Alike v → next w = other v) :
    followedBy next ran = followedBy other run := by
  obtain ⟨w, result⟩ := ran
  obtain ⟨v, _⟩ := run
  obtain ⟨halike, rfl⟩ := h
  cases result with
  | error p => rfl
  | ok value => exact hnext halike

theorem World.Alike.momentOf_eq (h : w.Alike v) {ran run : World × Except Panic Answer}
    (hran : AlikeRuns ran run) : w.momentOf ran = v.momentOf run := by
  unfold World.momentOf
  rw [h.ambient, hran.result, hran.world.ambient]

end

/-! ## Step by step -/

mutual

theorem Step.momentsInside_alike (a b : Auditing) (step : Step) {w v : World} (h : w.Alike v) :
    step.momentsInside a w = step.momentsInside b v := by
  cases step with
  | operation | guarded | refused | panic => rfl
  | caught body => exact momentsOf_alike a b body h
  | scope ctx body | caughtScope ctx body => exact momentsOf_alike a b body (h.withSlot _)
  | spawn body => exact momentsOf_alike a b body (h.withSlot _)
  | inherit meanwhile child =>
    unfold Step.momentsInside
    rw [h.ambient, momentsOf_alike a b meanwhile h]
    cases v.ambient with
    | none => rfl
    | some ctx =>
      refine congrArg _ (followedBy_congr (runSteps_alike a b meanwhile h) fun halike => ?_)
      exact momentsOf_alike a b child (halike.withSlot _)
  | cancelledScope ctx body => exact momentsOfFirst_alike a b body (h.withSlot _)
  | interleave contexts turns => exact momentsOfTurns_alike a b turns _ h
  | request claims body => exact momentsOf_alike a b body ((h.log _ _).withSlot _)

/-- Whatever the audits do, every step of a program finds the same context, ends with the same
result and leaves the same context. -/
theorem momentsOf_alike (a b : Auditing) (steps : List Step) {w v : World} (h : w.Alike v) :
    momentsOf a steps w = momentsOf b steps v := by
  cases steps with
  | nil => rfl
  | cons step rest =>
    have hran := step.run_alike a b h
    unfold momentsOf
    rw [step.momentsInside_alike a b h, h.momentOf_eq hran]
    exact congrArg _ (congrArg _ (followedBy_congr hran fun halike =>
      momentsOf_alike a b rest halike))

theorem momentsOfFirst_alike (a b : Auditing) (steps : List Step) {w v : World} (h : w.Alike v) :
    momentsOfFirst a steps w = momentsOfFirst b steps v := by
  cases steps with
  | nil => rfl
  | cons step rest =>
    unfold momentsOfFirst
    rw [step.momentsInside_alike a b h, h.momentOf_eq (step.run_alike a b h)]

theorem momentsOfTurns_alike (a b : Auditing) (turns : List (Nat × Step))
    (slots : List (Option TenantContext)) {w v : World} (h : w.Alike v) :
    momentsOfTurns a turns slots w = momentsOfTurns b turns slots v := by
  cases turns with
  | nil => rfl
  | cons turn rest =>
    obtain ⟨branch, step⟩ := turn
    have hslot := h.withSlot slots[branch]?.join
    have hran := step.run_alike a b hslot
    unfold momentsOfTurns
    dsimp only
    rw [step.momentsInside_alike a b hslot, hslot.momentOf_eq hran, h.ambient]
    refine congrArg _ (congrArg _ (followedBy_congr hran fun {after _} halike => ?_))
    -- what the block left in the slot is what it finds at its next turn
    rw [halike.ambient]
    exact momentsOfTurns_alike a b rest _ (halike.withSlot _)

end

/-! ## Whole runs -/

/-- An audit that fails changes no decision. Two audits with one clock may give the events any
identifiers and fail at any of them. Then in every program each step, inside blocks too, finds the
same context, ends with the same result and leaves the same context under both. Both are handed the
same events in the same order, but for the identifiers, one for each refusal and those after a
failure too. In the log there is one error for each event that could not be delivered, and none for
the others; whatever else is in the log is the same. -/
theorem failing_audits_change_no_decision (now : Nat → Instant) (eventId eventId' : Nat → EventId)
    (failure failure' : Nat → Option ServiceError) (program : List Step) (w : World) :
    let a : Auditing := ⟨now, eventId, failure⟩
    let b : Auditing := ⟨now, eventId', failure'⟩
    let ran := runSteps a program w
    let other := runSteps b program w
    momentsOf a program w = momentsOf b program w ∧
      ran.2 = other.2 ∧ ran.1.ambient = other.1.ambient ∧ ran.1.snapshots = other.1.snapshots ∧
      ∃ trail trail' entries entries',
        (ran.1.events = w.events ++ trail ∧ other.1.events = w.events ++ trail' ∧
          SameButIds trail trail' ∧
          trail.length = (traceSteps program w.ambient w.snapshots).denials.length) ∧
        (ran.1.logs = w.logs ++ entries ∧ other.1.logs = w.logs ++ entries') ∧
        entries.filter LogEntry.isError = a.reports w.events.length trail ∧
        entries'.filter LogEntry.isError = b.reports w.events.length trail' ∧
        (entries.filter fun entry => !entry.isError) =
          entries'.filter fun entry => !entry.isError := by
  intro a b ran other
  let trace := traceSteps program w.ambient w.snapshots
  let number := w.events.length
  have halike : AlikeRuns ran other := runSteps_alike a b program (.refl w)
  have hran : ran = trace.replay a w := runSteps_eq_replay a program w
  have hother : other = trace.replay b w := runSteps_eq_replay b program w
  refine ⟨momentsOf_alike a b program (.refl w), halike.result, halike.world.ambient,
    halike.world.snapshots, a.events number trace.denials, b.events number trace.denials,
    a.entries number trace.happenings, b.entries number trace.happenings, ?events, ?logs, ?errors,
    ?errors', ?others⟩
  case events =>
    refine ⟨by rw [hran]; rfl, by rw [hother]; rfl, ?_, a.length_events number trace.denials⟩
    exact a.events_sameButIds b rfl number trace.denials
  case logs => exact ⟨by rw [hran]; rfl, by rw [hother]; rfl⟩
  case errors => rw [a.filter_isError_entries, a.reports_events]; rfl
  case errors' => rw [b.filter_isError_entries, b.reports_events]; rfl
  case others => rw [a.filter_not_isError_entries, b.filter_not_isError_entries]

-- two of three records are left out, and only the second event can be delivered
example :
    let a : Auditing :=
      ⟨fun _ => ⟨0, 0, by decide, by decide⟩, EventId.ofNat,
        fun number => if number = 0 then some .accessDenied else none⟩
    let other : CompanyOwned Nat := ⟨.company ⟨"C", by decide, by decide⟩, 7⟩
    let program : List Step :=
      [.scope .empty
        [.guarded ⟨none, "bikes"⟩ (.retainVisible [other, ⟨.shared, 8⟩, other])]]
    let ran := runProgram a program
    ran.1.events.length = 2 ∧
      ran.1.logs = [deliveryFailed .accessDenied (EventId.ofNat 0)] ∧
      (momentsOf a program .initial).map (·.before) = [some .empty, none] :=
  ⟨rfl, rfl, rfl⟩

end RentalGuard
