import RentalGuard.Scope.Run

/-! The steps of a run one by one, those inside blocks too. For each there is the context when it
begins, its result, and the context that it leaves. The list is read off the running program, with
the world as it is at that point; so it shows whatever in the world has a part in what steps do. -/

namespace RentalGuard

variable {α : Type}

/-- One step of a run. -/
structure Moment where
  before : Option TenantContext
  result : Except Panic Answer
  after : Option TenantContext

/-- The moment of a step that began in the world and ended so. -/
def World.momentOf (w : World) (ran : World × Except Panic Answer) : Moment :=
  ⟨w.ambient, ran.2, ran.1.ambient⟩

/-- The world for the steps of a block with this slot. -/
def World.withSlot (slot : Option TenantContext) (w : World) : World := { w with ambient := slot }

/-- What follows after a result. Nothing follows after a panic. -/
def followedBy (next : World → List Moment) : World × Except Panic α → List Moment
  | (w, .ok _) => next w
  | (_, .error _) => []

mutual

/-- The moments inside a step, in the order in which they end. -/
def Step.momentsInside (a : Auditing) : Step → World → List Moment
  | .operation _, _ | .guarded _ _, _ | .refused _, _ | .panic _, _ => []
  | .caught body, w => momentsOf a body w
  | .scope ctx body, w => momentsOf a body (w.withSlot (some ctx))
  | .caughtScope ctx body, w => momentsOf a body (w.withSlot (some ctx))
  | .spawn body, w => momentsOf a body (w.withSlot none)
  | .inherit meanwhile child, w =>
    match w.ambient with
    | none => []
    | some ctx =>
      momentsOf a meanwhile w ++
        followedBy (fun w => momentsOf a child (w.withSlot (some ctx))) (runSteps a meanwhile w)
  | .cancelledScope ctx body, w => momentsOfFirst a body (w.withSlot (some ctx))
  | .interleave contexts turns, w => momentsOfTurns a turns (contexts.map some) w
  | .request claims body, w =>
    momentsOf a body ((w.log (Request.opened claims)).withSlot (some (Request.context claims)))

/-- The moments of steps that run one after the other, up to a panic. -/
def momentsOf (a : Auditing) : List Step → World → List Moment
  | [], _ => []
  | step :: rest, w =>
    step.momentsInside a w ++ w.momentOf (step.run a w) ::
      followedBy (fun w => momentsOf a rest w) (step.run a w)

/-- The moments of the first step only. -/
def momentsOfFirst (a : Auditing) : List Step → World → List Moment
  | [], _ => []
  | step :: _, w => step.momentsInside a w ++ [w.momentOf (step.run a w)]

/-- The moments of the steps of blocks in turn. -/
def momentsOfTurns (a : Auditing) :
    List (Nat × Step) → List (Option TenantContext) → World → List Moment
  | [], _, _ => []
  | (branch, step) :: rest, slots, w =>
    let inBlock := w.withSlot slots[branch]?.join
    let ran := step.run a inBlock
    step.momentsInside a inBlock ++ inBlock.momentOf ran ::
      followedBy
        (fun after =>
          momentsOfTurns a rest (slots.set branch after.ambient) (after.withSlot w.ambient)) ran

end

end RentalGuard
