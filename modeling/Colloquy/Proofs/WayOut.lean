import Colloquy.Proofs.Runs

/-! Where a forced exit leads, and when it leads nowhere. -/
namespace Colloquy

-- The ways in which a forced exit stays where it is, or has no target at all.
inductive Trapped (s : Snapshot) (stall : StallSettings) (state : State) : Prop where
  | returns (found : state.transitions.find? Trigger.stalled = some outcome)
      (picked : s.select outcome = some ⟨s.current, condition⟩)
  | shared (unpicked : (state.transitions.find? Trigger.stalled).bind s.select = none)
      (same : stall.skipState = some s.current)
  | nowhere (found : state.transitions.find? Trigger.stalled = some (.chain clauses))
      (unmet : ∀ clause ∈ clauses, s.flow.applies s.facts clause = false)
      (unset : stall.skipState = none)

theorem select_none {flow : Flow} {facts : Facts} {outcome : Outcome} :
    flow.select facts outcome = none ↔
      ∃ clauses, outcome = .chain clauses ∧
        ∀ clause ∈ clauses, flow.applies facts clause = false := by
  cases outcome with
  | direct target => simp [Flow.select]
  | chain clauses => simp [Flow.select]

section Stalled

variable {b : Blueprint} {flow : Flow} {stall : StallSettings} {s : Snapshot} {state : State}

theorem skipTarget_known (known : s.state? = some state) : Source.skipTarget s stall =
    (((state.transitions.find? Trigger.stalled).bind s.select).map (·.target)).or
      stall.skipState := by
  rw [Source.skipTarget, known, Option.bind_some]

-- A flow that was built has a transition on a stall wherever there is no state for all.
theorem skipTarget_none (fits : b.StallFits stall) (enabled : stall.enabled = true)
    (within : s.flow.blueprint = b) (known : s.state? = some state)
    (goesOn : state.terminal = false) :
    Source.skipTarget s stall = none ↔ ∃ clauses,
      state.transitions.find? Trigger.stalled = some (.chain clauses) ∧
      (∀ clause ∈ clauses, s.flow.applies s.facts clause = false) ∧ stall.skipState = none := by
  rw [skipTarget_known known, Option.or_eq_none_iff, Option.map_eq_none_iff]
  constructor
  · rintro ⟨unpicked, unset⟩
    have triggered := fits.wayOut enabled unset s.current state (within ▸ known) goesOn
    obtain ⟨outcome, found⟩ := Table.contains_iff.mp triggered
    rw [found, Option.bind_some] at unpicked
    obtain ⟨clauses, rfl, unmet⟩ := select_none.mp unpicked
    exact ⟨clauses, found, unmet, unset⟩
  · rintro ⟨clauses, found, unmet, unset⟩
    rw [found, Option.bind_some]
    exact ⟨select_none.mpr ⟨clauses, rfl, unmet⟩, unset⟩

theorem skipTarget_same (known : s.state? = some state) :
    Source.skipTarget s stall = some s.current ↔
      (∃ outcome condition, state.transitions.find? Trigger.stalled = some outcome ∧
        s.select outcome = some ⟨s.current, condition⟩) ∨
      ((state.transitions.find? Trigger.stalled).bind s.select = none ∧
        stall.skipState = some s.current) := by
  rw [skipTarget_known known, Option.or_eq_some_iff, Option.map_eq_none_iff]
  refine or_congr_left ?_
  constructor
  · intro own
    obtain ⟨⟨target, condition⟩, picked, rfl⟩ := Option.map_eq_some_iff.mp own
    obtain ⟨outcome, found, picked⟩ := Option.bind_eq_some_iff.mp picked
    exact ⟨outcome, condition, found, picked⟩
  · rintro ⟨outcome, condition, found, picked⟩
    rw [found, Option.bind_some, picked]
    rfl

theorem trapped_iff (fits : b.StallFits stall) (enabled : stall.enabled = true)
    (within : s.flow.blueprint = b) (known : s.state? = some state)
    (goesOn : state.terminal = false) :
    Trapped s stall state ↔
      Source.skipTarget s stall = none ∨ Source.skipTarget s stall = some s.current := by
  rw [skipTarget_none fits enabled within known goesOn, skipTarget_same known]
  constructor
  · intro trapped
    cases trapped with
    | returns found picked => exact .inr (.inl ⟨_, _, found, picked⟩)
    | shared unpicked same => exact .inr (.inr ⟨unpicked, same⟩)
    | nowhere found unmet unset => exact .inl ⟨_, found, unmet, unset⟩
  · rintro (⟨_, found, unmet, unset⟩ | ⟨_, _, found, picked⟩ | ⟨unpicked, same⟩)
    · exact .nowhere found unmet unset
    · exact .returns found picked
    · exact .shared unpicked same

theorem forced_exit_proposes (last : s.nextTier Source.stallName = .forcedExit)
    (skipped : Source.skipTarget s stall = some target) :
    .transition { target := target, priority := .critical, reason := "stall_forced_exit" } ∈
      Source.stallProposals s stall := by
  simp only [Source.stallProposals, last, skipped]
  exact List.mem_cons_of_mem _ (List.mem_singleton_self _)

theorem forced_exit_leaves_iff (built : Flow.build b = .ok flow) (configured : b.stall = some stall)
    (enabled : stall.enabled = true) (within : s.flow = flow) (known : s.state? = some state)
    (goesOn : state.terminal = false) :
    (∃ target, Source.skipTarget s stall = some target ∧ target ≠ s.current ∧
      flow.hasState target ∧ (s.nextTier Source.stallName = .forcedExit →
        .transition { target := target, priority := .critical, reason := "stall_forced_exit" } ∈
          Source.stallProposals s stall)) ↔
    ¬ Trapped s stall state := by
  obtain ⟨fits, rfl⟩ := built_iff.mp built
  have within' : s.flow.blueprint = b := by rw [within]
  rw [trapped_iff (fits.stall stall configured) enabled within' known goesOn, not_or]
  constructor
  · rintro ⟨target, skipped, leaves, _, _⟩
    rw [skipped]
    exact ⟨Option.some_ne_none target, fun same => leaves (Option.some.inj same)⟩
  · rintro ⟨somewhere, elsewhere⟩
    obtain ⟨target, skipped⟩ := Option.ne_none_iff_exists'.mp somewhere
    refine ⟨target, skipped, fun same => elsewhere (same ▸ skipped), ?_,
      fun last => forced_exit_proposes last skipped⟩
    rw [← within]
    exact Snapshot.skip_declared (within' ▸ fits) (within' ▸ configured) skipped

end Stalled

def intakeState (stalled : Outcome) : State where
  requiredData := ["name"]
  transitions := Table.empty.insert Trigger.stalled stalled

def intakeStall (skipState : Option String) : StallSettings where
  offerSkipAction := "offer_skip"
  skipAction := "skip"
  exitAction := "close"
  skipState := skipState

def intake (skipState : Option String) (stalled : Outcome) : Blueprint where
  initialState := "intake"
  intents := ["unclear"]
  actions := ["continue", "escalate_to_human", "offer_skip", "skip", "close"]
  fields := Table.empty.insert "name" {}
  states := Table.ofList [("intake", intakeState stalled), ("closing", { terminal := true })]
  stall := some (intakeStall skipState)

def onceComplete : Outcome := .chain [⟨some NamedCondition.dataCompleteName, "closing"⟩]

-- A turn without any data, in which the stall guard fires for the last time.
def intakeTurn (b : Blueprint) : Snapshot :=
  .capture ⟨b, b.vocabulary⟩ { Conversation.begin "visitor" "intake" 20 .epoch with
    counters := { sameStateStreak := 12 }
    tiers := Table.empty.insert Source.stallName .offerAlternative } "unclear" .empty

def intakeOpen : Blueprint := intake (some "closing") onceComplete

theorem intake_left :
    Flow.build intakeOpen = .ok (intakeTurn intakeOpen).flow ∧
      (intakeTurn intakeOpen).stall? = some (intakeStall (some "closing")) ∧
      (intakeTurn intakeOpen).state? = some (intakeState onceComplete) ∧
      (intakeTurn intakeOpen).nextTier Source.stallName = .forcedExit ∧
      ¬ Trapped (intakeTurn intakeOpen) (intakeStall (some "closing"))
        (intakeState onceComplete) := by
  have built : Flow.build intakeOpen = .ok (intakeTurn intakeOpen).flow := by rfl
  refine ⟨built, by rfl, by rfl, by rfl, ?_⟩
  refine (forced_exit_leaves_iff (s := intakeTurn intakeOpen) built rfl rfl rfl rfl rfl).mp ?_
  exact ⟨"closing", by decide, by decide, by decide, by decide⟩

def intakeHeld : Blueprint := intake none onceComplete

def intakeReturning : Blueprint := intake (some "intake") onceComplete

-- Without data there is no target; a state for all may be the one to leave.
theorem intake_not_left :
    (Flow.build intakeHeld = .ok (intakeTurn intakeHeld).flow ∧
      (intakeTurn intakeHeld).stall? = some (intakeStall none) ∧
      (intakeTurn intakeHeld).state? = some (intakeState onceComplete) ∧
      Source.skipTarget (intakeTurn intakeHeld) (intakeStall none) = none) ∧
    Flow.build intakeReturning = .ok (intakeTurn intakeReturning).flow ∧
      (intakeTurn intakeReturning).stall? = some (intakeStall (some "intake")) ∧
      (intakeTurn intakeReturning).state? = some (intakeState onceComplete) ∧
      Source.skipTarget (intakeTurn intakeReturning) (intakeStall (some "intake")) =
        some (intakeTurn intakeReturning).current :=
  ⟨⟨by rfl, by rfl, by rfl, by decide⟩, by rfl, by rfl, by rfl, by decide⟩

end Colloquy
