import Colloquy.Proofs.Course

/-! Guard tiers in one turn. -/
namespace Colloquy

namespace Conversation

theorem tier_raiseTier (c : Conversation) (e : Escalation) (guard : String) :
    (c.raiseTier e).tier guard =
      if guard = e.guard ∧ c.raises e = true then e.tier else c.tier guard := by
  unfold raiseTier
  by_cases raises : c.raises e = true
  · by_cases same : guard = e.guard <;> simp [raises, same, tier]
  · simp [raises]

theorem tier_rises (c : Conversation) (e : Escalation) (guard : String) :
    (c.tier guard).level ≤ ((c.raiseTier e).tier guard).level := by
  rw [tier_raiseTier]
  split
  · rename_i raised
    obtain ⟨rfl, raises⟩ := raised
    exact Nat.le_of_lt (of_decide_eq_true raises)
  · exact Nat.le_refl _

theorem tiers_rise (c : Conversation) (raised : List Escalation) (guard : String) :
    (c.tier guard).level ≤ ((raised.foldl raiseTier c).tier guard).level := by
  induction raised generalizing c with
  | nil => exact Nat.le_refl _
  | cons e rest ih => exact Nat.le_trans (tier_rises c e guard) (ih (c.raiseTier e))

theorem tier_reached (c : Conversation) {raised : List Escalation} {e : Escalation}
    (member : e ∈ raised) : e.tier.level ≤ ((raised.foldl raiseTier c).tier e.guard).level := by
  induction raised generalizing c with
  | nil => cases member
  | cons first rest ih =>
    rcases List.mem_cons.mp member with rfl | later
    · apply Nat.le_trans _ (tiers_rise (c.raiseTier e) rest e.guard)
      rw [tier_raiseTier]
      split
      · exact Nat.le_refl _
      · rename_i refused
        have below : ¬ (c.tier e.guard).level < e.tier.level := by
          simpa [raises] using refused
        exact Nat.le_of_not_lt below
    · exact ih (c.raiseTier first) later

theorem raiseTier_refused {c : Conversation} {e : Escalation} (refused : c.raises e = false) :
    c.raiseTier e = c := by
  unfold raiseTier
  rw [refused]
  rfl

theorem raiseTier_raised {c : Conversation} {e : Escalation} (raised : c.raises e = true) :
    c.raiseTier e = { c with tiers := c.tiers.insert e.guard e.tier } := by
  unfold raiseTier
  rw [raised]
  rfl

theorem raises_reached (c : Conversation) {a b : Escalation} (same : a.guard = b.guard)
    (below : a.tier.level ≤ b.tier.level) : (c.raiseTier b).raises a = false := by
  have reached := tier_reached c (List.mem_singleton.mpr (rfl : b = b))
  unfold raises
  rw [decide_eq_false_iff_not, same]
  exact Nat.not_lt.mpr (Nat.le_trans below reached)

-- A lower tier of the same guard is not noticed once the higher one is raised.
theorem raiseTier_absorbs (c : Conversation) {a b : Escalation} (same : a.guard = b.guard)
    (below : a.tier.level ≤ b.tier.level) : (c.raiseTier a).raiseTier b = c.raiseTier b := by
  cases raised : c.raises a with
  | false => rw [raiseTier_refused raised]
  | true =>
    have low : (c.tier a.guard).level < a.tier.level := of_decide_eq_true raised
    rcases Nat.lt_or_eq_of_le below with lower | equal
    · have after : (c.raiseTier a).raises b = true := by
        unfold raises
        rw [tier_raiseTier, if_pos ⟨same.symm, raised⟩]
        exact decide_eq_true lower
      have before : c.raises b = true := decide_eq_true (same ▸ Nat.lt_trans low lower)
      rw [raiseTier_raised after, raiseTier_raised before, raiseTier_raised raised]
      have inserted : (c.tiers.insert a.guard a.tier).insert b.guard b.tier =
          c.tiers.insert b.guard b.tier := by
        apply Table.ext_find?
        intro guard
        rw [same]
        by_cases own : guard = b.guard <;> simp [own]
      exact congrArg (fun tiers => { c with tiers := tiers }) inserted
    · have equal : a = b := by
        obtain ⟨guard, tier⟩ := a
        obtain ⟨guard', tier'⟩ := b
        cases same
        cases Tier.level_injective equal
        rfl
      rw [equal, raiseTier_refused (raises_reached c rfl (Nat.le_refl _))]

theorem raiseTier_apart (c : Conversation) {a b : Escalation} (apart : a.guard ≠ b.guard) :
    (c.raiseTier a).raiseTier b = (c.raiseTier b).raiseTier a := by
  have unmoved {x y : Escalation} (apart : x.guard ≠ y.guard) :
      (c.raiseTier x).raises y = c.raises y := by
    unfold raises
    rw [tier_raiseTier, if_neg fun own => apart own.1.symm]
  have a' := unmoved apart
  have b' := unmoved apart.symm
  cases first : c.raises a with
  | false =>
    rw [first] at b'
    rw [raiseTier_refused first, raiseTier_refused b']
  | true =>
    cases second : c.raises b with
    | false =>
      rw [second] at a'
      rw [raiseTier_refused second, raiseTier_refused a']
    | true =>
      rw [second] at a'
      rw [first] at b'
      rw [raiseTier_raised a', raiseTier_raised b', raiseTier_raised first,
        raiseTier_raised second]
      have inserted : (c.tiers.insert a.guard a.tier).insert b.guard b.tier =
          (c.tiers.insert b.guard b.tier).insert a.guard a.tier := by
        apply Table.ext_find?
        intro guard
        by_cases own : guard = a.guard
        · simp [own, apart]
        · simp [own]
      exact congrArg (fun tiers => { c with tiers := tiers }) inserted

-- Whatever tiers are raised, their order makes no difference.
theorem raiseTier_comm (c : Conversation) (a b : Escalation) :
    (c.raiseTier a).raiseTier b = (c.raiseTier b).raiseTier a := by
  by_cases same : a.guard = b.guard
  · rcases Nat.le_total a.tier.level b.tier.level with below | above
    · rw [raiseTier_absorbs c same below, raiseTier_refused (raises_reached c same below)]
    · rw [raiseTier_absorbs c same.symm above,
        raiseTier_refused (raises_reached c same.symm above)]
  · exact raiseTier_apart c same

theorem raiseTiers_perm (c : Conversation) {raised raised' : List Escalation}
    (perm : raised.Perm raised') : raised.foldl raiseTier c = raised'.foldl raiseTier c :=
  perm.foldl_eq' (fun a _ b _ c => raiseTier_comm c a b) c

end Conversation

-- The record that is added in between makes no difference to the tiers.
theorem Turn.commit_tiers (s : Snapshot) (d : Decision) (raised : List Escalation) (now : Instant) :
    (commit s d raised now).tiers = (raised.foldl Conversation.raiseTier s.conversation).tiers := by
  have later (c : Conversation) (e : Escalation) :
      (c.pushHistory (record s d)).raiseTier e = (c.raiseTier e).pushHistory (record s d) := by
    unfold Conversation.raiseTier
    have same : (c.pushHistory (record s d)).raises e = c.raises e := rfl
    rw [same]
    split <;> rfl
  have moved : raised.foldl Conversation.raiseTier (s.conversation.pushHistory (record s d)) =
      (raised.foldl Conversation.raiseTier s.conversation).pushHistory (record s d) :=
    List.foldl_hom (Conversation.pushHistory · (record s d)) later
  change (raised.foldl Conversation.raiseTier (s.conversation.pushHistory _)).tiers = _
  rw [moved]
  rfl

theorem Turn.commit_tier (s : Snapshot) (d : Decision) (raised : List Escalation) (now : Instant)
    (guard : String) : (commit s d raised now).tier guard =
      (raised.foldl Conversation.raiseTier s.conversation).tier guard := by
  rw [Conversation.tier, commit_tiers]
  rfl

-- In a state of the flow the tiers rise to what all guards that fired propose.
theorem Engine.turn_tier {engine : Engine} {c : Conversation} {state : State}
    (known : engine.flow.state? c.current = some state) (input : TurnInput) (now : Instant)
    (guard : String) : (engine.turn c input now).conversation.tier guard =
      ((Turn.escalations (engine.registry.proposals (engine.snapshot c input))).foldl
        Conversation.raiseTier c).tier guard := by
  let s := engine.snapshot c input
  have here : s.state?.isSome = true := Option.isSome_iff_exists.mpr ⟨state, known⟩
  rw [← Turn.asked_known engine.registry here]
  exact Turn.commit_tier s (engine.turn c input now).decision _ now guard

theorem Turn.mem_escalations {asked : List Collected} {e : Escalation} :
    e ∈ Turn.escalations asked ↔
      ∃ name p, (name, p) ∈ asked.map Resolution.tag ∧ p.escalation? = some e := by
  simp only [Turn.escalations, List.mem_filterMap, List.mem_map, Resolution.tag, Prod.mk.injEq]
  constructor
  · rintro ⟨c, member, escalates⟩
    exact ⟨c.source, c.proposal, ⟨c, member, rfl, rfl⟩, escalates⟩
  · rintro ⟨_, _, ⟨c, member, rfl, rfl⟩, escalates⟩
    exact ⟨c, member, escalates⟩

theorem Registry.mem_escalations {registry : Registry} {s : Snapshot} {e : Escalation} :
    e ∈ Turn.escalations (registry.proposals s) ↔
      ∃ source ∈ registry, ∃ p ∈ source.offers s, p.escalation? = some e := by
  rw [Turn.mem_escalations, proposals_tagged]
  simp only [List.mem_flatMap, List.mem_map, Prod.mk.injEq]
  constructor
  · rintro ⟨_, _, ⟨source, member, p, offered, rfl, rfl⟩, escalates⟩
    exact ⟨source, member, p, offered, escalates⟩
  · rintro ⟨source, member, p, offered, escalates⟩
    exact ⟨source.name, p, ⟨source, member, p, offered, rfl, rfl⟩, escalates⟩

theorem Source.stallProposals_escalate (s : Snapshot) (stall : StallSettings) :
    ∃ p ∈ stallProposals s stall, p.escalation? = some ⟨stallName, s.nextTier stallName⟩ := by
  unfold stallProposals Snapshot.nextTier
  cases s.conversation.tier stallName <;> exact ⟨_, List.mem_cons_self, rfl⟩

theorem Source.stall_escalates {s : Snapshot} {stall : StallSettings}
    (fires : s.stall? = some stall) :
    ⟨stallName, s.nextTier stallName⟩ ∈ Turn.escalations (Registry.standard.proposals s) := by
  obtain ⟨p, written, escalates⟩ := stallProposals_escalate s stall
  refine Registry.mem_escalations.mpr ⟨stallGuard, ?_, p, ?_, escalates⟩
  · simp [Registry.standard]
  · rw [offers_stallGuard, fires]
    simpa using written

end Colloquy
