import Colloquy.Proofs.Containment
import Colloquy.Proofs.Reordering
import Mathlib.Data.List.Perm.Basic

/-! The order in which sources are registered breaks ties and nothing else. -/
namespace Colloquy

-- At least as good, by priority and then by rank.
def Proposal.Matches (p q : Proposal) : Prop :=
  q.priority.level < p.priority.level ∨ p.priority.level = q.priority.level ∧ p.rank ≤ q.rank

instance (p q : Proposal) : Decidable (p.Matches q) := inferInstanceAs (Decidable (_ ∨ _))

namespace Resolution

-- The best of its kind by priority and rank; there may be several.
structure Best (kind : ProposalKind) (ps : List Collected) (c : Collected) : Prop where
  listed : c ∈ ps
  ofKind : c.proposal.kind = kind
  best : ∀ b ∈ ps, b.proposal.kind = kind → c.proposal.Matches b.proposal

-- All the best of a kind are from one source.
def Sole (kind : ProposalKind) (ps : List Collected) : Prop :=
  ∀ a b, Best kind ps a → Best kind ps b → a.sourceIndex = b.sourceIndex

theorem best_iff {kind : ProposalKind} {ps : List Collected} {c : Collected} :
    Best kind ps c ↔ c ∈ ps ∧ c.proposal.kind = kind ∧
      ∀ b ∈ ps, b.proposal.kind = kind → c.proposal.Matches b.proposal :=
  ⟨fun h => ⟨h.listed, h.ofKind, h.best⟩, fun h => ⟨h.1, h.2.1, h.2.2⟩⟩

instance (kind : ProposalKind) (ps : List Collected) (c : Collected) :
    Decidable (Best kind ps c) :=
  decidable_of_iff _ best_iff.symm

instance (kind : ProposalKind) (ps : List Collected) : Decidable (Sole kind ps) :=
  decidable_of_iff
    (∀ a ∈ ps, ∀ b ∈ ps, Best kind ps a → Best kind ps b → a.sourceIndex = b.sourceIndex)
    ⟨fun h a b one other => h a one.listed b other.listed one other,
      fun h a _ b _ => h a b⟩

-- A proposal with its source and its place in what the source wrote, wherever the source stands.
def unplaced (c : Collected) : String × Nat × Proposal := (c.source, c.seq, c.proposal)

theorem head_best {kind : ProposalKind} {ps : List Collected} {w : Collected × Nat}
    (head : (partition kind ps).head? = some w) : Best kind ps w.1 := by
  have foremost := partition_foremost head
  refine ⟨List.mem_of_getElem? foremost.listed, foremost.ofKind, fun b member ofKind => ?_⟩
  obtain ⟨position, listed⟩ := List.mem_iff_getElem?.mp member
  by_cases same : position = w.2
  · have equal : b = w.1 := by
      rw [same, foremost.listed] at listed
      exact (Option.some.inj listed).symm
    exact equal ▸ .inr ⟨rfl, Nat.le_refl _⟩
  · cases foremost.first b position listed ofKind same with
    | priority higher => exact .inl higher
    | rank priority lower => exact .inr ⟨congrArg _ priority, Nat.le_of_lt lower⟩
    | source priority rank _ | emission priority rank _ _ | position priority rank _ _ _ =>
      exact .inr ⟨congrArg _ priority, Nat.le_of_eq rank⟩

theorem Best.tied {kind : ProposalKind} {ps : List Collected} {a b : Collected}
    (one : Best kind ps a) (other : Best kind ps b) :
    a.proposal.priority.level = b.proposal.priority.level ∧ a.proposal.rank = b.proposal.rank := by
  have first := one.best b other.listed other.ofKind
  have second := other.best a one.listed one.ofKind
  unfold Proposal.Matches at first second
  omega

-- Of the best the first one written wins, if a single source has them all.
theorem head_earliest {kind : ProposalKind} {ps : List Collected} {w : Collected × Nat}
    (head : (partition kind ps).head? = some w) (sole : Sole kind ps) {c : Collected}
    (best : Best kind ps c) : w.1.seq ≤ c.seq := by
  have foremost := partition_foremost head
  obtain ⟨position, listed⟩ := List.mem_iff_getElem?.mp best.listed
  by_cases same : position = w.2
  · rw [same, foremost.listed] at listed
    exact Nat.le_of_eq (congrArg Collected.seq (Option.some.inj listed))
  · have source := sole _ _ (head_best head) best
    have tied := (head_best head).tied best
    cases foremost.first c position listed best.ofKind same with
    | priority higher => exact absurd tied.1 (Nat.ne_of_gt higher)
    | rank _ lower => exact absurd tied.2 (Nat.ne_of_lt lower)
    | source _ _ earlier => exact absurd source (Nat.ne_of_lt earlier)
    | emission _ _ _ earlier => exact Nat.le_of_lt earlier
    | position _ _ _ emission _ => exact Nat.le_of_eq emission

def Placed (ps : List Collected) : Prop :=
  ∀ (i j : Nat) (a b : Collected), ps[i]? = some a → ps[j]? = some b → a.sourceIndex = b.sourceIndex →
    a.seq = b.seq → i = j

theorem best_along {kind : ProposalKind} {ps ps' : List Collected}
    (perm : (ps.map unplaced).Perm (ps'.map unplaced)) {c : Collected} (best : Best kind ps c) :
    ∃ c', unplaced c' = unplaced c ∧ Best kind ps' c' := by
  have moved {qs qs' : List Collected} (perm : (qs.map unplaced).Perm (qs'.map unplaced))
      {b : Collected} (member : b ∈ qs) : ∃ b' ∈ qs', unplaced b' = unplaced b :=
    List.mem_map.mp (perm.mem_iff.mp (List.mem_map_of_mem member))
  have told {a b : Collected} (same : unplaced a = unplaced b) : a.proposal = b.proposal :=
    congrArg (·.2.2) same
  obtain ⟨c', listed, same⟩ := moved perm best.listed
  refine ⟨c', same, listed, by rw [told same, best.ofKind], fun b' member ofKind => ?_⟩
  obtain ⟨b, listed, alike⟩ := moved perm.symm member
  rw [told same, ← told alike]
  exact best.best b listed (by rw [told alike, ofKind])

theorem unproposed_along {kind : ProposalKind} {ps ps' : List Collected}
    (perm : (ps.map unplaced).Perm (ps'.map unplaced)) (without : Unproposed kind ps) :
    Unproposed kind ps' := by
  intro c member ofKind
  obtain ⟨b, listed, alike⟩ := List.mem_map.mp (perm.symm.mem_iff.mp (List.mem_map_of_mem member))
  have same : b.proposal = c.proposal := congrArg (·.2.2) alike
  exact without b listed (by rw [same, ofKind])

theorem head_along {kind : ProposalKind} {ps ps' : List Collected}
    (perm : (ps.map unplaced).Perm (ps'.map unplaced)) (placed : Placed ps')
    (sole : Sole kind ps) (sole' : Sole kind ps') :
    (partition kind ps).head?.map (fun e => unplaced e.1) =
      (partition kind ps').head?.map (fun e => unplaced e.1) := by
  cases one : (partition kind ps).head? with
  | none =>
    have without := unproposed_along perm (partition_none.mp one)
    rw [partition_none.mpr without]
  | some w =>
    have best := head_best one
    obtain ⟨c', same, best'⟩ := best_along perm best
    cases other : (partition kind ps').head? with
    | none => exact absurd best'.ofKind (partition_none.mp other c' best'.listed)
    | some v =>
      -- Each winner is the first of the best in its own order, so both were written first.
      obtain ⟨b, alike, matching⟩ := best_along perm.symm (head_best other)
      have emission : c'.seq = v.1.seq := by
        have first := head_earliest one sole matching
        have first' := head_earliest other sole' best'
        have written : c'.seq = w.1.seq := congrArg (·.2.1) same
        have written' : b.seq = v.1.seq := congrArg (·.2.1) alike
        omega
      have source := sole' _ _ best' (head_best other)
      obtain ⟨i, at'⟩ := List.mem_iff_getElem?.mp best'.listed
      obtain ⟨j, there⟩ := List.mem_iff_getElem?.mp (head_best other).listed
      have position := placed i j _ _ at' there source emission
      rw [position, there] at at'
      rw [Option.map_some, Option.map_some, ← same, Option.some.inj at']

theorem marked_of_sole {ps : List Collected} (placed : Placed ps)
    (sole : ∀ kind, Sole kind ps) : Marked unplaced ps := by
  intro kind w head e member ofKind same
  have best := head_best head
  have told : e.1.proposal = w.1.proposal := congrArg (·.2.2) same
  have listed := List.mem_zipIdx_iff_getElem?.mp member
  have also : Best kind ps e.1 :=
    ⟨List.mem_of_getElem? listed, ofKind, fun b there kind => by
      rw [told]
      exact best.best b there kind⟩
  exact placed _ _ _ _ listed (partition_foremost head).listed (sole kind _ _ also best)
    (congrArg (·.2.1) same)

theorem reordered_of_sole {ps ps' : List Collected}
    (perm : (ps.map unplaced).Perm (ps'.map unplaced)) (placed : Placed ps) (placed' : Placed ps')
    (sole : ∀ kind, Sole kind ps) (sole' : ∀ kind, Sole kind ps') : Reordered unplaced ps ps' where
  telling _ _ same := Prod.ext (congrArg (·.1) same) (congrArg (·.2.2) same)
  perm := perm
  heads kind := head_along perm placed' (sole kind) (sole' kind)
  marked := marked_of_sole placed sole
  marked' := marked_of_sole placed' sole'

end Resolution

open Resolution

namespace Registry

variable {registry registry' : Registry} {s : Snapshot}

theorem mem_proposals {c : Collected} : c ∈ registry.proposals s ↔
    ∃ source, registry[c.sourceIndex]? = some source ∧ c.source = source.name ∧
      (source.offers s)[c.seq]? = some c.proposal := by
  rw [proposals_offers, List.mem_flatMap]
  constructor
  · rintro ⟨⟨source, index⟩, place, member⟩
    obtain ⟨⟨p, seq⟩, offered, rfl⟩ := List.mem_map.mp member
    exact ⟨source, List.mem_zipIdx_iff_getElem?.mp place, rfl,
      List.mem_zipIdx_iff_getElem?.mp offered⟩
  · rintro ⟨source, place, named, offered⟩
    refine ⟨(source, c.sourceIndex), List.mem_zipIdx_iff_getElem?.mpr place, ?_⟩
    refine List.mem_map.mpr ⟨(c.proposal, c.seq), List.mem_zipIdx_iff_getElem?.mpr offered, ?_⟩
    rw [← named]

theorem proposals_placed (registry : Registry) (s : Snapshot) : Placed (registry.proposals s) := by
  intro i j a b here there source emission
  have ordered := List.pairwise_iff_getElem.mp (registry.proposals_inOrder s)
  obtain ⟨inside, rfl⟩ := List.getElem?_eq_some_iff.mp here
  obtain ⟨within, rfl⟩ := List.getElem?_eq_some_iff.mp there
  rcases Nat.lt_trichotomy i j with before | same | after
  · have apart := ordered i j inside within before
    omega
  · exact same
  · have apart := ordered j i within inside after
    omega

theorem proposals_unplaced (registry : Registry) (s : Snapshot) :
    (registry.proposals s).map unplaced = registry.flatMap fun source =>
      (source.offers s).zipIdx.map fun p => (source.name, p.2, p.1) := by
  conv => rhs; rw [← List.zipIdx_map_fst 0 registry]
  rw [proposals_offers, List.map_flatMap, List.flatMap_map]
  simp only [List.map_map]
  rfl

theorem proposals_perm (perm : registry.Perm registry') (s : Snapshot) :
    ((registry.proposals s).map unplaced).Perm ((registry'.proposals s).map unplaced) := by
  rw [proposals_unplaced, proposals_unplaced]
  exact perm.flatMap_right _

def Holds (kind : ProposalKind) (ps : List Collected) (s : Snapshot) (source : Source) : Prop :=
  ∃ p ∈ source.offers s, p.kind = kind ∧ ∀ b ∈ ps, b.proposal.kind = kind → p.Matches b.proposal

-- Said of the sources, it does not matter in which order they stand.
theorem sole_iff {kind : ProposalKind} : Sole kind (registry.proposals s) ↔
    registry.Pairwise fun a b =>
      ¬ (Holds kind (registry.proposals s) s a ∧ Holds kind (registry.proposals s) s b) := by
  have best (i : Nat) (source : Source) (place : registry[i]? = some source)
      (holds : Holds kind (registry.proposals s) s source) :
      ∃ c, Best kind (registry.proposals s) c ∧ c.sourceIndex = i := by
    obtain ⟨p, offered, ofKind, best⟩ := holds
    obtain ⟨seq, written⟩ := List.mem_iff_getElem?.mp offered
    exact ⟨⟨source.name, i, seq, p⟩,
      ⟨mem_proposals.mpr ⟨source, place, rfl, written⟩, ofKind, best⟩, rfl⟩
  have holds (c : Collected) (best : Best kind (registry.proposals s) c) :
      ∃ source, registry[c.sourceIndex]? = some source ∧
        Holds kind (registry.proposals s) s source := by
    obtain ⟨source, place, _, written⟩ := mem_proposals.mp best.listed
    exact ⟨source, place, c.proposal, List.mem_of_getElem? written, best.ofKind, best.best⟩
  rw [List.pairwise_iff_getElem]
  constructor
  · rintro sole i j inside within before ⟨first, second⟩
    obtain ⟨a, here, rfl⟩ := best i _ (List.getElem?_eq_getElem inside) first
    obtain ⟨b, there, rfl⟩ := best j _ (List.getElem?_eq_getElem within) second
    exact absurd (sole a b here there) (Nat.ne_of_lt before)
  · intro apart a b here there
    obtain ⟨first, place, holdsFirst⟩ := holds a here
    obtain ⟨second, place', holdsSecond⟩ := holds b there
    obtain ⟨inside, rfl⟩ := List.getElem?_eq_some_iff.mp place
    obtain ⟨within, rfl⟩ := List.getElem?_eq_some_iff.mp place'
    rcases Nat.lt_trichotomy a.sourceIndex b.sourceIndex with before | same | after
    · exact absurd ⟨holdsFirst, holdsSecond⟩ (apart _ _ inside within before)
    · exact same
    · exact absurd ⟨holdsSecond, holdsFirst⟩ (apart _ _ within inside after)

theorem sole_perm (perm : registry.Perm registry') {kind : ProposalKind}
    (sole : Sole kind (registry.proposals s)) : Sole kind (registry'.proposals s) := by
  have members (p : Proposal) : (∀ b ∈ registry.proposals s, b.proposal.kind = kind →
      p.Matches b.proposal) ↔ ∀ b ∈ registry'.proposals s, b.proposal.kind = kind →
      p.Matches b.proposal := by
    have along {one other : Registry} (perm : one.Perm other)
        (all : ∀ b ∈ one.proposals s, b.proposal.kind = kind → p.Matches b.proposal) :
        ∀ b ∈ other.proposals s, b.proposal.kind = kind → p.Matches b.proposal := by
      intro b member ofKind
      obtain ⟨a, listed, alike⟩ := List.mem_map.mp
        ((proposals_perm perm s).symm.mem_iff.mp (List.mem_map_of_mem member))
      have same : a.proposal = b.proposal := congrArg (·.2.2) alike
      rw [← same]
      exact all a listed (by rw [same, ofKind])
    exact ⟨along perm, along perm.symm⟩
  rw [sole_iff] at sole ⊢
  have moved := (perm.pairwise_iff fun apart both => apart both.symm).mp sole
  simp only [Holds, members] at moved
  exact moved

end Registry

namespace Turn

variable {registry registry' : Registry}

theorem asked_perm (perm : registry.Perm registry') (s : Snapshot) :
    ((askedProposals registry s).map unplaced).Perm ((askedProposals registry' s).map unplaced) := by
  unfold askedProposals
  split
  · exact Registry.proposals_perm perm s
  · exact .nil

theorem asked_placed (registry : Registry) (s : Snapshot) : Placed (askedProposals registry s) := by
  unfold askedProposals
  split
  · exact registry.proposals_placed s
  · exact fun _ _ _ _ never => by cases never

theorem asked_sole (perm : registry.Perm registry') (s : Snapshot) {kind : ProposalKind}
    (sole : Sole kind (askedProposals registry s)) : Sole kind (askedProposals registry' s) := by
  unfold askedProposals at sole ⊢
  by_cases known : s.state?.isSome = true
  · rw [if_pos known] at sole ⊢
    exact Registry.sole_perm perm sole
  · rw [if_neg known] at sole ⊢
    exact sole

theorem escalations_perm (perm : registry.Perm registry') (s : Snapshot) :
    (escalations (askedProposals registry s)).Perm (escalations (askedProposals registry' s)) := by
  have told (ps : List Collected) :
      escalations ps = (ps.map unplaced).filterMap (·.2.2.escalation?) := by
    unfold escalations
    rw [List.filterMap_map]
    rfl
  rw [told, told]
  exact (asked_perm perm s).filterMap _

theorem decision_known {s : Snapshot} {ps ps' : List Collected} (known : s.state?.isSome = true)
    (same : Reordered unplaced ps ps') :
    Matching unplaced ps ps' (decision s ps) (decision s ps') := by
  rcases same.resolves s.current (some s.flow.engine.defaultAction) with failed | decided
  · cases failed.1.symm.trans (decision_resolved known ps)
  · obtain ⟨d, d', resolved, resolved', matching⟩ := decided
    cases (decision_resolved known ps).symm.trans resolved
    cases (decision_resolved known ps').symm.trans resolved'
    exact matching

theorem decision_matching (perm : registry.Perm registry') (s : Snapshot)
    (sole : ∀ kind, Sole kind (askedProposals registry s)) :
    Matching unplaced (askedProposals registry s) (askedProposals registry' s)
      (decision s (askedProposals registry s)) (decision s (askedProposals registry' s)) := by
  by_cases known : s.state?.isSome = true
  · exact decision_known known (reordered_of_sole (asked_perm perm s) (asked_placed registry s)
      (asked_placed registry' s) sole fun kind => asked_sole perm s (sole kind))
  · have unknown : s.state? = none := Option.not_isSome_iff_eq_none.mp known
    rw [asked_unknown registry unknown, asked_unknown registry' unknown]
    exact .refl unplaced [] _

end Turn

theorem registration_order {registry registry' : Registry} (perm : registry.Perm registry')
    (flow : Flow) (c : Conversation) (input : TurnInput) (now later : Instant) :
    let s := Snapshot.capture flow c (flow.intentOf input.label) input.extracted
    let asked := Turn.askedProposals registry s
    let asked' := Turn.askedProposals registry' s
    let one := processTurn registry flow c input now
    let other := processTurn registry' flow c input later
    one.conversation.tiers = other.conversation.tiers ∧
    (Sole .action asked → Sole .transition asked →
      Matching unplaced asked asked' one.decision other.decision ∧
      one.decision.dataUpdates = other.decision.dataUpdates ∧
      one.conversation = { other.conversation with
        lastDecision := one.conversation.lastDecision, updatedAt := now }) := by
  intro s asked asked' one other
  have raised : (Turn.escalations asked).Perm (Turn.escalations asked') :=
    Turn.escalations_perm perm s
  constructor
  · change (Turn.commit s one.decision (Turn.escalations asked) now).tiers =
      (Turn.commit s other.decision (Turn.escalations asked') later).tiers
    rw [Turn.commit_tiers, Turn.commit_tiers, Conversation.raiseTiers_perm _ raised]
  · intro action transition
    have matching : Matching unplaced asked asked' one.decision other.decision := by
      have decided := Turn.decision_matching perm s fun kind => by
        cases kind with
        | action => exact action
        | transition => exact transition
      exact ⟨decided.action, decided.nextState, decided.winningSource,
        decided.transitionsSuppressed, decided.degraded, decided.firstReason, decided.reasons,
        decided.trace, decided.entries⟩
    refine ⟨matching, rfl, ?_⟩
    change Turn.commit s one.decision (Turn.escalations asked) now =
      { Turn.commit s other.decision (Turn.escalations asked') later with
        lastDecision := some ⟨s.turn, one.decision⟩, updatedAt := now }
    unfold Turn.commit Turn.record
    dsimp only
    rw [Conversation.raiseTiers_perm _ raised, matching.action, matching.nextState]

-- One source greets, another opens the door and would offer something.
def herald : Source where
  name := "herald"
  applies _ := true
  contribute _ := ⟨[.action { action := "greet", priority := .normal, reason := "welcome" }], none⟩

def porter : Source where
  name := "porter"
  applies _ := true
  contribute _ := ⟨[
    .action { action := "offer", priority := .low, reason := "service" },
    .transition { target := "hall", priority := .low, reason := "open_door" }], none⟩

theorem hosts_exchanged :
    let flow : Flow := ⟨lobby, lobby.vocabulary⟩
    let c := Conversation.begin "visitor" "lobby" 20 .epoch
    let s := Snapshot.capture flow c "unclear" .empty
    let asked := Turn.askedProposals [herald, porter] s
    let asked' := Turn.askedProposals [porter, herald] s
    let one := processTurn [herald, porter] flow c ⟨"mumble", .empty⟩ .epoch
    let other := processTurn [porter, herald] flow c ⟨"mumble", .empty⟩ .epoch
    [herald, porter].Perm [porter, herald] ∧ Sole .action asked ∧ Sole .transition asked ∧
    asked.length = 3 ∧ Matching unplaced asked asked' one.decision other.decision := by
  intro flow c s asked asked' one other
  have perm : [herald, porter].Perm [porter, herald] := .swap porter herald []
  have sole (kind : ProposalKind) : Sole kind asked := by
    cases kind <;> decide
  obtain ⟨_, decided⟩ := registration_order perm flow c ⟨"mumble", .empty⟩ .epoch .epoch
  obtain ⟨matching, _⟩ := decided (sole .action) (sole .transition)
  exact ⟨perm, sole .action, sole .transition, rfl, matching⟩

end Colloquy
