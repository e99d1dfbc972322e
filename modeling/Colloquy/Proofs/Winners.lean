import Colloquy.Proofs.Ranking

/-! Who wins, said without sorting. -/
namespace Colloquy.Resolution

-- A member of a list with its position comes before another one.
inductive Before (a b : Collected × Nat) : Prop where
  | priority (higher : b.1.proposal.priority.level < a.1.proposal.priority.level)
  | rank (priority : a.1.proposal.priority = b.1.proposal.priority)
      (lower : a.1.proposal.rank < b.1.proposal.rank)
  | source (priority : a.1.proposal.priority = b.1.proposal.priority)
      (rank : a.1.proposal.rank = b.1.proposal.rank)
      (earlier : a.1.sourceIndex < b.1.sourceIndex)
  | emission (priority : a.1.proposal.priority = b.1.proposal.priority)
      (rank : a.1.proposal.rank = b.1.proposal.rank)
      (source : a.1.sourceIndex = b.1.sourceIndex)
      (earlier : a.1.seq < b.1.seq)
  | position (priority : a.1.proposal.priority = b.1.proposal.priority)
      (rank : a.1.proposal.rank = b.1.proposal.rank)
      (source : a.1.sourceIndex = b.1.sourceIndex)
      (emission : a.1.seq = b.1.seq)
      (earlier : a.2 < b.2)

-- The member of a kind that comes before all others of that kind.
structure Foremost (kind : ProposalKind) (ps : List Collected) (e : Collected × Nat) : Prop where
  listed : ps[e.2]? = some e.1
  ofKind : e.1.proposal.kind = kind
  first : ∀ c position, ps[position]? = some c → c.proposal.kind = kind → position ≠ e.2 →
    Before e (c, position)

def Unproposed (kind : ProposalKind) (ps : List Collected) : Prop :=
  ∀ c ∈ ps, c.proposal.kind ≠ kind

structure Ranked (kind : ProposalKind) (ps : List Collected) (l : List (Collected × Nat)) :
    Prop where
  members : ∀ e, e ∈ l ↔ ps[e.2]? = some e.1 ∧ e.1.proposal.kind = kind
  ordered : l.Pairwise Before

section Rules

variable (ps : List Collected)

-- The action that wins, whether the conversation may move with it, and its source.
inductive Wins (defaultAction : Option String) : String → Bool → Option String → Prop where
  | proposed (p : ActionProposal)
      (foremost : Foremost .action ps (⟨source, index, seq, .action p⟩, position)) :
      Wins defaultAction p.action p.combinable (some source)
  | default (unproposed : Unproposed .action ps) (configured : defaultAction = some action) :
      Wins defaultAction action true none

-- Where the conversation goes with an action that holds it or lets it move.
inductive Arrives (current : String) : Bool → String → Prop where
  | held : Arrives current false current
  | stays (unproposed : Unproposed .transition ps) : Arrives current true current
  | moves (p : TransitionProposal)
      (foremost : Foremost .transition ps (⟨source, index, seq, .transition p⟩, position)) :
      Arrives current true p.target

end Rules

theorem before_iff (a b : Collected × Nat) : Before a b ↔
    (compareCollected a.1 b.1).isLE ∧ ((compareCollected b.1 a.1).isLE → a.2 < b.2) := by
  have same : a.1.proposal.priority = b.1.proposal.priority ↔
      a.1.proposal.priority.level = b.1.proposal.priority.level :=
    ⟨congrArg Priority.level, Priority.level_injective⟩
  rw [compareCollected_isLE, compareCollected_isLE]
  constructor
  · intro before
    cases before with
    | priority higher => omega
    | rank priority lower =>
      rw [same] at priority
      omega
    | source priority rank earlier =>
      rw [same] at priority
      omega
    | emission priority rank source earlier =>
      rw [same] at priority
      omega
    | position priority rank source emission earlier =>
      rw [same] at priority
      omega
  · rintro ⟨below, later⟩
    rcases below with higher | ⟨priority, below⟩
    · exact .priority higher
    rw [eq_comm, ← same] at priority
    rcases below with lower | ⟨rank, below⟩
    · exact .rank priority lower
    rcases below with earlier | ⟨source, below⟩
    · exact .source priority rank earlier
    rcases Nat.lt_or_eq_of_le below with earlier | emission
    · exact .emission priority rank source earlier
    · apply Before.position priority rank source emission
      apply later
      rw [priority]
      omega

theorem Before.asymm {a b : Collected × Nat} (before : Before a b) : ¬ Before b a := by
  intro after
  rw [before_iff] at before after
  have earlier := before.2 after.1
  have later := after.2 before.1
  omega

theorem Foremost.unique {kind : ProposalKind} {ps : List Collected} {a b : Collected × Nat}
    (one : Foremost kind ps a) (other : Foremost kind ps b) : a = b := by
  by_cases same : b.2 = a.2
  · have equal : a.1 = b.1 := Option.some.inj (one.listed.symm.trans (same ▸ other.listed))
    exact Prod.ext equal same.symm
  · have before := one.first b.1 b.2 other.listed other.ofKind same
    have after := other.first a.1 a.2 one.listed one.ofKind (Ne.symm same)
    exact absurd after before.asymm

theorem Foremost.proposed {kind : ProposalKind} {ps : List Collected} {e : Collected × Nat}
    (foremost : Foremost kind ps e) : ¬ Unproposed kind ps := by
  intro unproposed
  exact unproposed e.1 (List.mem_of_getElem? foremost.listed) foremost.ofKind

theorem pairwise_mergeSort_placed {le : α → α → Bool} (place : α → Nat)
    (trans : ∀ a b c, le a b → le b c → le a c) (total : ∀ a b, le a b || le b a) {l : List α}
    (placed : l.Pairwise (place · < place ·)) :
    (l.mergeSort le).Pairwise fun a b => le a b ∧ (le b a → place a < place b) := by
  induction l with
  | nil => simp
  | cons a rest ih =>
    obtain ⟨early, placed⟩ := List.pairwise_cons.mp placed
    obtain ⟨before, after, whole, without, above, below⟩ := mergeSort_split trans total a rest
    have others := ih placed
    rw [without] at others
    obtain ⟨front, back, across⟩ := List.pairwise_append.mp others
    rw [whole]
    refine List.pairwise_append.mpr ⟨front, List.pairwise_cons.mpr ⟨?later, back⟩, ?earlier⟩
    case later =>
      intro b member
      have inside : b ∈ rest.mergeSort le := without ▸ List.mem_append_right before member
      exact ⟨below b member, fun _ => early b (List.mem_mergeSort.mp inside)⟩
    case earlier =>
      intro b member c later
      rcases List.mem_cons.mp later with rfl | later
      · have first : le b c = true := by simpa [above b member] using total c b
        exact ⟨first, fun never => by simp [above b member] at never⟩
      · exact across b member c later

theorem partition_ranked (kind : ProposalKind) (ps : List Collected) :
    Ranked kind ps (partition kind ps) where
  members e := by rw [mem_partition, List.mem_zipIdx_iff_getElem?]
  ordered := by
    have placed := (pairwise_zipIdx ps).filter (·.1.proposal.kind == kind)
    apply (pairwise_mergeSort_placed Prod.snd
      (fun a b c => compareCollected_trans a.1 b.1 c.1)
      (fun a b => compareCollected_total a.1 b.1) placed).imp
    intro a b ordered
    exact (before_iff a b).mpr ordered

theorem leastBy_none {le : α → α → Bool} {l : List α} : leastBy le l = none ↔ l = [] := by
  cases l with
  | nil => exact iff_of_true rfl rfl
  | cons a rest =>
    unfold leastBy
    cases leastBy le rest <;> simp

theorem partition_none {kind : ProposalKind} {ps : List Collected} :
    (partition kind ps).head? = none ↔ Unproposed kind ps := by
  rw [partition_head?, leastBy_none, List.filter_eq_nil_iff]
  constructor
  · intro without c member same
    obtain ⟨position, listed⟩ := List.mem_iff_getElem?.mp member
    exact without (c, position) (List.mem_zipIdx_iff_getElem?.mpr listed) (beq_iff_eq.mpr same)
  · intro unproposed e member same
    exact unproposed e.1 (List.fst_mem_of_mem_zipIdx member) (beq_iff_eq.mp same)

theorem partition_foremost {kind : ProposalKind} {ps : List Collected} {e : Collected × Nat}
    (head : (partition kind ps).head? = some e) : Foremost kind ps e := by
  obtain ⟨members, ordered⟩ := partition_ranked kind ps
  obtain ⟨rest, whole⟩ := List.head?_eq_some_iff.mp head
  rw [whole] at members ordered
  obtain ⟨listed, ofKind⟩ := (members e).mp List.mem_cons_self
  refine ⟨listed, ofKind, ?_⟩
  intro c position there same apart
  have inside := (members (c, position)).mpr ⟨there, same⟩
  rcases List.mem_cons.mp inside with itself | later
  · exact absurd (congrArg Prod.snd itself) apart
  · exact (List.pairwise_cons.mp ordered).1 _ later

theorem Foremost.head {kind : ProposalKind} {ps : List Collected} {e : Collected × Nat}
    (foremost : Foremost kind ps e) : (partition kind ps).head? = some e := by
  cases head : (partition kind ps).head? with
  | none => exact absurd (partition_none.mp head) foremost.proposed
  | some w => rw [(partition_foremost head).unique foremost]

theorem lead_none {ps : List Collected} {defaultAction : Option String} :
    lead? (partition .action ps).head? defaultAction = none ↔
      Unproposed .action ps ∧ defaultAction = none := by
  rw [← partition_none]
  cases head : (partition .action ps).head? with
  | none => simp [lead?]
  | some e =>
    obtain ⟨⟨source, index, seq, proposal⟩, position⟩ := e
    have ofKind := (partition_foremost head).ofKind
    cases proposal with
    | action p => simp [lead?]
    | transition p => cases ofKind

theorem lead_wins {ps : List Collected} {defaultAction : Option String} {lead : Lead}
    (leads : lead? (partition .action ps).head? defaultAction = some lead) :
    Wins ps defaultAction lead.action lead.combinable lead.source := by
  cases head : (partition .action ps).head? with
  | none =>
    rw [head] at leads
    obtain ⟨action, configured, rfl⟩ := Option.map_eq_some_iff.mp leads
    exact .default (partition_none.mp head) configured
  | some e =>
    obtain ⟨⟨source, index, seq, proposal⟩, position⟩ := e
    have foremost := partition_foremost head
    cases proposal with
    | transition p => cases foremost.ofKind
    | action p =>
      rw [head] at leads
      cases Option.some.inj leads
      exact .proposed p foremost

theorem next_arrives (ps : List Collected) (current : String) (combinable : Bool) :
    Arrives ps current combinable
      (nextState combinable (partition .transition ps).head? current) := by
  cases combinable with
  | false => exact .held
  | true =>
    cases head : (partition .transition ps).head? with
    | none => exact .stays (partition_none.mp head)
    | some e =>
      obtain ⟨⟨source, index, seq, proposal⟩, position⟩ := e
      have foremost := partition_foremost head
      cases proposal with
      | action p => cases foremost.ofKind
      | transition p => exact .moves p foremost

theorem Wins.unique {ps : List Collected} {defaultAction : Option String}
    (one : Wins ps defaultAction action combinable source)
    (other : Wins ps defaultAction action' combinable' source') :
    action = action' ∧ combinable = combinable' ∧ source = source' := by
  cases one with
  | proposed p foremost =>
    cases other with
    | proposed q again =>
      cases foremost.unique again
      exact ⟨rfl, rfl, rfl⟩
    | default unproposed configured =>
      exact absurd unproposed foremost.proposed
  | default unproposed configured =>
    cases other with
    | proposed q foremost =>
      exact absurd unproposed foremost.proposed
    | default _ again =>
      rw [configured] at again
      exact ⟨Option.some.inj again, rfl, rfl⟩

theorem Arrives.unique {ps : List Collected} {current : String}
    (one : Arrives ps current combinable next) (other : Arrives ps current combinable next') :
    next = next' := by
  cases one with
  | held =>
    cases other with
    | held => rfl
  | stays unproposed =>
    cases other with
    | stays => rfl
    | moves q foremost =>
      exact absurd unproposed foremost.proposed
  | moves p foremost =>
    cases other with
    | stays unproposed =>
      exact absurd unproposed foremost.proposed
    | moves q again =>
      cases foremost.unique again
      rfl

theorem resolve_exact (ps : List Collected) (current : String) (defaultAction : Option String) :
    let exhausted := Unproposed .action ps ∧ defaultAction = none
    (resolve ps current defaultAction = .error .exhausted ↔ exhausted) ∧
    (¬ exhausted → ∃ d, resolve ps current defaultAction = .ok d ∧
      ∀ action combinable source next,
        Wins ps defaultAction action combinable source ∧ Arrives ps current combinable next ↔
          action = d.action ∧ combinable = !d.transitionsSuppressed ∧
            source = d.winningSource ∧ next = d.nextState) := by
  intro exhausted
  cases leads : lead? (partition .action ps).head? defaultAction with
  | none =>
    have nothing : exhausted := lead_none.mp leads
    have failed := resolve_leaderless leads current
    exact ⟨iff_of_true failed nothing, fun something => absurd nothing something⟩
  | some lead =>
    obtain ⟨d, resolved, led⟩ := resolves_led leads current
    have something : ¬ exhausted := by
      intro nothing
      rw [lead_none.mpr nothing] at leads
      cases leads
    have succeeded : resolve ps current defaultAction ≠ .error .exhausted := by
      rw [resolved]
      exact nofun
    refine ⟨iff_of_false succeeded something, fun _ => ⟨d, resolved, ?_⟩⟩
    rw [led.action, led.suppressed, led.winningSource, led.nextState, Bool.not_not]
    have wins := lead_wins leads
    have arrives := next_arrives ps current lead.combinable
    intro action combinable source next
    constructor
    · rintro ⟨won, moved⟩
      obtain ⟨rfl, rfl, rfl⟩ := won.unique wins
      exact ⟨rfl, rfl, rfl, moved.unique arrives⟩
    · rintro ⟨rfl, rfl, rfl, rfl⟩
      exact ⟨wins, arrives⟩

end Colloquy.Resolution
